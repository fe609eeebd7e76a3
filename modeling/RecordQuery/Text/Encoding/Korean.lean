import RecordQuery.Text.Encoding.Codes
import RecordQuery.Text.Encoding.Korean.Basic

/-!
# Korean text

Syllables are made of a leading consonant, a vowel and at most one trailing
consonant. The set holds the usual ones; the others are spelled in jamo, or
follow in order in places outside the set, or are given by their parts.
-/

namespace RecordQuery.Encoding.Korean

/-! ### Syllables -/

def leading : List Char := "ㄱㄲㄴㄷㄸㄹㅁㅂㅃㅅㅆㅇㅈㅉㅊㅋㅌㅍㅎ".toList

def vowels : List Char := "ㅏㅐㅑㅒㅓㅔㅕㅖㅗㅘㅙㅚㅛㅜㅝㅞㅟㅠㅡㅢㅣ".toList

def trailing : List Char := "ㄱㄲㄳㄴㄵㄶㄷㄹㄺㄻㄼㄽㄾㄿㅀㅁㅂㅄㅅㅆㅇㅈㅊㅋㅌㅍㅎ".toList

def filler : Char := '\u3164'

def firstSyllable : Nat := 0xac00

def syllableCount : Nat := 19 * 21 * 28

def syllable (lead vowel trail : Nat) : Char :=
  Char.ofNat (firstSyllable + (lead * 21 + vowel) * 28 + trail)

def ofJamo? (lead vowel trail : Char) : Option Char := do
  let lead ← leading.idxOf? lead
  let vowel ← vowels.idxOf? vowel
  if trail = filler then some (syllable lead vowel 0)
  else some (syllable lead vowel ((← trailing.idxOf? trail) + 1))

/-! ### Bytes from 0xa1 on -/

def basic? (code : Nat) : Option Char := Chart.basicKorean.char? code

def pair? (first second : Nat) : Option Char := (planeCode? first second).bind basic?

/-- A syllable spelled after a filler, each jamo in two bytes. -/
def spelled? : List Nat → Option Char
  | 0xa4 :: lead :: 0xa4 :: vowel :: 0xa4 :: trail :: _ => do
    ofJamo? (← pair? 0xa4 lead) (← pair? 0xa4 vowel) (← pair? 0xa4 trail)
  | _ => none

def upper : CodeReader := fun byte rest =>
  match byte, rest with
  | 0xa4, 0xd4 :: spelling => (spelled? spelling).map fun c => ([c], 7)
  | _, _ => orPair? (fun first second => (pair? first second).map ([·])) byte rest

/-! ### All syllables -/

def unusual : Array Char := Chart.missing [Chart.basicKorean] firstSyllable syllableCount

def outerPlace? (second : Nat) : Option Nat :=
  if 0x41 ≤ second ∧ second ≤ 0x5a then some (second - 0x41)
  else if 0x61 ≤ second ∧ second ≤ 0x7a then some (second - 0x61 + 26)
  else if 0x81 ≤ second ∧ second ≤ 0xfe then some (second - 0x81 + 52)
  else none

/-- The place of a pair among those outside the set: 178 for a first byte
below 0xa1, and 84 for one from there on. -/
def outer? (first second : Nat) : Option Nat := do
  let place ← outerPlace? second
  if 0x81 ≤ first ∧ first < 0xa1 then some ((first - 0x81) * 178 + place)
  else if 0xa1 ≤ first ∧ place < 84 then some (32 * 178 + (first - 0xa1) * 84 + place)
  else none

def unifiedPair? (first second : Nat) : Option (List Char) :=
  match pair? first second with
  | some c => some [c]
  | none => (outer? first second).bind fun place => (unusual[place]?).map ([·])

def unified : CodeReader := orPair? unifiedPair?

/-! ### Parts in five bits each -/

/-- The number of a part by its five bits, which start from `first` and have
gaps, each given by its start and its width. -/
def part? (first count : Nat) (gaps : List (Nat × Nat)) (bits : Nat) : Option Nat :=
  if bits < first || gaps.any fun gap => gap.1 ≤ bits && bits < gap.1 + gap.2 then none
  else
    let skipped := (gaps.filter fun gap => gap.1 ≤ bits).foldl (fun total gap => total + gap.2) 0
    let number := bits - first - skipped
    if number < count then some number else none

def leadPart? (bits : Nat) : Option Nat := part? 2 19 [] bits

def vowelPart? (bits : Nat) : Option Nat := part? 3 21 [(8, 2), (16, 2), (24, 2)] bits

def trailPart? (bits : Nat) : Option Nat := part? 2 27 [(18, 1)] bits

def ofParts? (bits : Nat) : Option Char :=
  let lead := bits / 1024 % 32
  let vowel := bits / 32 % 32
  let trail := bits % 32
  if lead = 1 then
    if vowel = 2 then if trail = 1 then some '\u3000' else (trailPart? trail).bind (trailing[·]?)
    else if trail = 1 then (vowelPart? vowel).bind (vowels[·]?)
    else none
  else if vowel = 2 then
    if trail = 1 then (leadPart? lead).bind (leading[·]?) else none
  else do
    let lead ← leadPart? lead
    let vowel ← vowelPart? vowel
    if trail = 1 then some (syllable lead vowel 0)
    else some (syllable lead vowel ((← trailPart? trail) + 1))

def sign? (first second : Nat) : Option Char := do
  let place ←
    if 0x31 ≤ second ∧ second ≤ 0x7e then some (second - 0x31)
    else if 0x91 ≤ second ∧ second ≤ 0xfe then some (second - 0x43)
    else none
  -- Here lie the jamo, which are given by their parts.
  let isJamo := first = 0xda ∧ 0xa1 ≤ second ∧ second ≤ 0xd3
  if first < 0xd9 ∨ first = 0xdf ∨ 0xf9 < first ∨ isJamo then none
  else
    let half := if first < 0xe0 then 2 * (first - 0xd9) else 2 * first - 0x197
    basic? ((half + place / 94 + 0x21) * 256 + (place % 94 + 0x21))

def partsPair? (first second : Nat) : Option (List Char) :=
  (if first < 0xd8 then ofParts? (first * 256 + second) else sign? first second).map ([·])

def byParts : CodeReader := orPair? partsPair?

end RecordQuery.Encoding.Korean
