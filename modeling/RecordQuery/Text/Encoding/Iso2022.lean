import RecordQuery.Text.Encoding.Chart.Iso8859
import RecordQuery.Text.Encoding.Chinese
import RecordQuery.Text.Encoding.Japanese
import RecordQuery.Text.Encoding.Korean

/-!
# Text with designated sets

Bytes below 0x80 stand for characters of a set, which an escape sequence
designates. A second set is reached by shifting, a third for one character
at a time. Which sets there are, and whether the second and the third can
be reached, depends on the arrangement.
-/

namespace RecordQuery.Encoding.Iso2022

inductive CharSet where
  | ascii | roman | katakana | basicJapanese | supplementaryJapanese
  | firstPlane (edition : Japanese.Edition) | secondPlane
  | chinese | korean | latin | greek
deriving DecidableEq

def CharSet.read? : CharSet → CodeReader
  | .ascii, byte, _ => some ([Char.ofNat byte], 0)
  | .roman, byte, _ => (Japanese.roman? byte).map fun c => ([c], 0)
  | .katakana, byte, _ => (Japanese.katakana? (byte + 0x80)).map fun c => ([c], 0)
  | .basicJapanese, byte, second :: _ => pair (Japanese.basic? (byte * 256 + second))
  | .supplementaryJapanese, byte, second :: _ =>
    pair (Japanese.supplementary? (byte * 256 + second))
  | .firstPlane edition, byte, second :: _ =>
    pair (Japanese.firstPlane? edition (byte * 256 + second))
  | .secondPlane, byte, second :: _ => pair (Japanese.secondPlane? .later (byte * 256 + second))
  | .chinese, byte, second :: _ => pair ((Chinese.basic? (byte * 256 + second)).map ([·]))
  | .korean, byte, second :: _ => pair ((Korean.basic? (byte * 256 + second)).map ([·]))
  | _, _, _ => none
where
  pair (chars : Option (List Char)) : Option (List Char × Nat) := chars.map fun chars => (chars, 1)

def laterGreek : List Nat := [0x24, 0x25, 0x2a]

/-- A single character of the third set. The Greek set is the earlier one;
its upper half is reached from the lower bytes, and its lower half from the
upper ones. -/
def CharSet.single? : CharSet → Nat → Option Char
  | .ascii, byte => if byte < 0x80 then some (Char.ofNat byte) else none
  | .latin, byte => if byte < 0x80 then some (Char.ofNat (byte + 0x80)) else none
  | .greek, byte =>
    if byte < 0x20 then some (Char.ofNat (byte + 0x80))
    else if byte < 0x80 then
      if laterGreek.contains byte then none else Chart.iso7.char? (byte + 0x80)
    else some (Char.ofNat (byte - 0x80))
  | _, _ => none

/-- The sets of an arrangement by the last bytes of the sequences that
designate them. Sets of two bytes are apart. -/
structure Arrangement where
  narrow : List (Char × CharSet)
  wide : List (Char × CharSet)
  hasShift : Bool
  hasThird : Bool

namespace Arrangement

open CharSet

def romanSet : Char × CharSet := ('J', roman)

def basicSets : List (Char × CharSet) := [('B', basicJapanese), ('@', basicJapanese)]

def supplementarySet : Char × CharSet := ('D', supplementaryJapanese)

def japanese : Arrangement := ⟨[romanSet], basicSets, false, false⟩

def japaneseSupplemented : Arrangement :=
  ⟨[romanSet], supplementarySet :: basicSets, false, false⟩

def multilingual : Arrangement :=
  ⟨[romanSet, ('A', latin), ('F', greek)],
    supplementarySet :: ('C', korean) :: ('A', chinese) :: basicSets, false, true⟩

def japaneseFirst : Arrangement :=
  ⟨[], [('B', basicJapanese), ('O', firstPlane .first), ('P', secondPlane)],
    false, false⟩

def japaneseLater : Arrangement :=
  ⟨[], [('Q', firstPlane .later), ('B', basicJapanese), ('P', secondPlane)],
    false, false⟩

def japaneseNarrow : Arrangement :=
  ⟨[romanSet, ('I', katakana)], supplementarySet :: basicSets, false, false⟩

def koreanShifted : Arrangement := ⟨[], [('C', korean)], true, false⟩

end Arrangement

structure State where
  first : CharSet
  second : CharSet
  third : CharSet
  isShifted : Bool
  isInSequence : Bool

def State.start : State := ⟨.ascii, .ascii, .ascii, false, false⟩

def isLast (byte : Nat) : Bool := 0x40 ≤ byte && byte ≤ 0x5a

def escape : Nat := 0x1b

def setOf? (arrangement : Arrangement) (isWide : Bool) (last : Nat) : Option CharSet :=
  if isWide then arrangement.wide.lookup (Char.ofNat last)
  else if last = 0x42 then some .ascii
  else arrangement.narrow.lookup (Char.ofNat last)

/-- The state after a sequence that starts as designations do, with the
length of the sequence after its first byte. What designates the basic
Japanese set may be announced by two bytes and another escape. -/
def designate? (arrangement : Arrangement) (state : State) : List Nat → Option (State × Nat)
  | 0x24 :: 0x28 :: last :: _ => do
    some ({ state with first := ← setOf? arrangement true last }, 3)
  | 0x24 :: 0x29 :: last :: _ => do
    some ({ state with second := ← setOf? arrangement true last }, 3)
  | mark :: middle :: 0x1b :: 0x24 :: 0x42 :: _ =>
    if !isLast middle || (mark = 0x26 && middle = 0x40) then
      (setOf? arrangement true 0x42).map fun set => ({ state with first := set }, 5)
    else short? mark middle
  | mark :: last :: _ => short? mark last
  | _ => none
where
  short? : Nat → Nat → Option (State × Nat)
    | 0x24, last => (setOf? arrangement true last).map fun set => ({ state with first := set }, 2)
    | 0x28, last => (setOf? arrangement false last).map fun set => ({ state with first := set }, 2)
    | 0x29, last => (setOf? arrangement false last).map fun set => ({ state with second := set }, 2)
    | 0x2e, last =>
      if arrangement.hasThird then
        (setOf? arrangement false last).map fun set => ({ state with third := set }, 2)
      else none
    | _, _ => none

def startsDesignation (byte : Nat) : Bool := [0x24, 0x26, 0x28, 0x29, 0x2e].contains byte

def afterEscape? (arrangement : Arrangement) (state : State) (rest : List Nat) :
    Option (State × List Char × Nat) :=
  match rest with
  | [] => none
  | byte :: more =>
    if startsDesignation byte then
      (designate? arrangement state rest).map fun (state, further) => (state, [], further)
    else if arrangement.hasThird && byte = 0x4e then
      match more with
      | single :: _ => (state.third.single? single).map fun c => (state, [c], 2)
      | [] => none
    else some ({ state with isInSequence := true }, [Char.ofNat escape], 0)

/-- What the byte at the front does and stands for. A line feed ends a
shift; other controls stand for themselves. -/
def step? (arrangement : Arrangement) (state : State) (byte : Nat) (rest : List Nat) :
    Option (State × List Char × Nat) :=
  if state.isInSequence then
    some ({ state with isInSequence := !isLast byte }, [Char.ofNat byte], 0)
  else if byte = escape then afterEscape? arrangement state rest
  else if byte = 0x0f && arrangement.hasShift then some ({ state with isShifted := false }, [], 0)
  else if byte = 0x0e && arrangement.hasShift then some ({ state with isShifted := true }, [], 0)
  else if byte = 0x0a then some ({ state with isShifted := false }, ['\n'], 0)
  else if byte < 0x20 then some (state, [Char.ofNat byte], 0)
  else if 0x80 ≤ byte then none
  else
    let set := if state.isShifted then state.second else state.first
    (set.read? byte rest).map fun (chars, further) => (state, chars, further)

def textFrom? (arrangement : Arrangement) (state : State) : List Nat → Option (List Char)
  | [] => some []
  | byte :: rest => do
    let (state, chars, further) ← step? arrangement state byte rest
    let text ← textFrom? arrangement state (rest.drop further)
    some (chars ++ text)
termination_by bytes => bytes.length
decreasing_by simp only [List.length_drop, List.length_cons]; omega

def text? (arrangement : Arrangement) (bytes : List Nat) : Option (List Char) :=
  textFrom? arrangement .start bytes

end RecordQuery.Encoding.Iso2022
