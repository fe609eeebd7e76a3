import RecordQuery.Text.Encoding.Chinese.Additional
import RecordQuery.Text.Encoding.Chinese.Basic
import RecordQuery.Text.Encoding.Codes

/-!
# Simplified Chinese text

The basic set has codes of two bytes from 0xa1 on, or of seven bits between
braces after tildes. Larger sets keep these codes. They put the ideographs
that it lacks, in order, into places outside the set, and in the end every
character that there is has a code of two bytes or of four.
-/

namespace RecordQuery.Encoding.Chinese

/-! ### The basic set -/

def basic? (code : Nat) : Option Char :=
  (Chart.basicChinese.char? code).or (Chart.olderChinese.char? code)

def upperPair? (first second : Nat) : Option (List Char) :=
  ((planeCode? first second).bind basic?).map ([·])

def upper : CodeReader := orPair? upperPair?

/-- Text of seven bits. Between braces after tildes, pairs of bytes are
codes of the set; elsewhere two tildes are one, and a tilde before a line
feed joins lines. -/
def sevenBits? (isPaired : Bool) : List Nat → Option (List Char)
  | [] => some []
  | [byte] => if isPaired || byte = tilde || 0x80 ≤ byte then none else some [Char.ofNat byte]
  | byte :: second :: rest =>
    if byte = tilde then
      if isPaired then if second = 0x7d then sevenBits? false rest else none
      else if second = tilde then (sevenBits? false rest).map ('~' :: ·)
      else if second = 0x7b then sevenBits? true rest
      else if second = 0x0a then sevenBits? false rest
      else none
    else if 0x80 ≤ byte then none
    else if isPaired then do
      let c ← basic? (byte * 256 + second)
      (sevenBits? true rest).map (c :: ·)
    else (sevenBits? false (second :: rest)).map (Char.ofNat byte :: ·)
where
  tilde : Nat := 0x7e

/-! ### The larger set -/

def firstIdeograph : Nat := 0x4e00

def ideographCount : Nat := 20902

def unusual : Array Char := Chart.missing [Chart.basicChinese] firstIdeograph ideographCount

def place? (second : Nat) : Option Nat :=
  if 0x40 ≤ second ∧ second < 0x7f then some (second - 0x40)
  else if 0x80 ≤ second ∧ second < 0xff then some (second - 0x41)
  else none

/-- The place of a pair among those that ideographs in order take: all
pairs of a first byte below 0xa1, and 96 pairs of one from 0xaa on. -/
def outer? (first second : Nat) : Option Nat := do
  let place ← place? second
  if 0x81 ≤ first ∧ first < 0xa1 then some ((first - 0x81) * 190 + place)
  else if 0xaa ≤ first ∧ first < 0xff ∧ place < 96 then
    some (32 * 190 + (first - 0xaa) * 96 + place)
  else none

def unifiedChar? (first second : Nat) : Option Char :=
  ((Chart.additionalChinese.char? (first * 256 + second)).or
    ((planeCode? first second).bind Chart.basicChinese.char?)).or
    ((outer? first second).bind fun place => unusual[place]?)

def unified : CodeReader :=
  orPair? fun first second => (unifiedChar? first second).map ([·])

/-! ### The set of all characters -/

/-- Pairs for the use of users stand for private characters, in three
areas. -/
def userChar? (first second : Nat) : Option Char := do
  let place ← place? second
  if 0xaa ≤ first ∧ first < 0xb0 ∧ 96 ≤ place then
    some (Char.ofNat (0xe000 + (first - 0xaa) * 94 + (place - 96)))
  else if 0xf8 ≤ first ∧ first < 0xff ∧ 96 ≤ place then
    some (Char.ofNat (0xe234 + (first - 0xf8) * 94 + (place - 96)))
  else if 0xa1 ≤ first ∧ first < 0xa8 ∧ place < 96 then
    some (Char.ofNat (0xe4c6 + (first - 0xa1) * 96 + place))
  else none

def freeCodes : List (Nat × Nat) := [
  (0xa2ab, 6), (0xa2e3, 2), (0xa2ef, 2), (0xa2fd, 2), (0xa4f4, 11), (0xa5f7, 8), (0xa6b9, 8),
  (0xa6d9, 7), (0xa6ec, 2), (0xa6f3, 1), (0xa6f6, 9), (0xa7c2, 15), (0xa7f2, 13), (0xa896, 11),
  (0xa8bc, 1), (0xa8bf, 1), (0xa8c1, 4), (0xa8ea, 21), (0xa958, 1), (0xa95b, 1), (0xa95d, 3),
  (0xa989, 13), (0xa997, 13), (0xa9f0, 15), (0xd7fa, 5), (0xfe50, 47), (0xfe80, 33)]

def freeCharFrom? (next : Nat) : List (Nat × Nat) → Nat → Option Char
  | [], _ => none
  | (first, count) :: runs, code =>
    if first ≤ code ∧ code < first + count then some (Char.ofNat (next + (code - first)))
    else freeCharFrom? (next + count) runs code

def firstFree : Nat := 0xe766

def freeChar? (code : Nat) : Option Char :=
  (Chart.latestChinese.char? code).or (freeCharFrom? firstFree freeCodes code)

def released : List Nat :=
  (Chart.latestChinese.flatMap fun run => (List.range run.2.length).map (run.1 + ·)).filterMap
    fun code => (freeCharFrom? firstFree freeCodes code).map Char.toNat

def isPairedNumber (number : Nat) : Bool :=
  (firstIdeograph ≤ number && number < firstIdeograph + ideographCount) ||
    (0xe000 ≤ number && number < firstFree + 255 && !released.contains number)

def unpaired : Array Char :=
  (Chart.missing [Chart.basicChinese, Chart.additionalChinese, Chart.latestChinese]
    0x80 0xff80).filter fun c => !isPairedNumber c.toNat

def longPlace? (first second third fourth : Nat) : Option Nat :=
  if 0x81 ≤ first ∧ first < 0xff ∧ 0x30 ≤ second ∧ second < 0x3a ∧
      0x81 ≤ third ∧ third < 0xff ∧ 0x30 ≤ fourth ∧ fourth < 0x3a then
    some ((((first - 0x81) * 10 + (second - 0x30)) * 126 + (third - 0x81)) * 10 + (fourth - 0x30))
  else none

def firstLong : Nat := 15 * 12600

def longChar? (place : Nat) : Option Char :=
  if firstLong ≤ place then
    if place < firstLong + 0x100000 then some (Char.ofNat (0x10000 + (place - firstLong)))
    else none
  else unpaired[place]?

def fullPair? (first second : Nat) : Option Char :=
  ((unifiedChar? first second).or (userChar? first second)).or (freeChar? (first * 256 + second))

/-- Codes of four bytes have a digit in second place, those of two never
have. -/
def full : CodeReader := fun byte rest =>
  match rest with
  | second :: third :: fourth :: _ =>
    if 0x80 ≤ byte ∧ 0x30 ≤ second ∧ second < 0x3a then
      ((longPlace? byte second third fourth).bind longChar?).map fun c => ([c], 3)
    else orPair? (fun first second => (fullPair? first second).map ([·])) byte rest
  | _ => orPair? (fun first second => (fullPair? first second).map ([·])) byte rest

end RecordQuery.Encoding.Chinese
