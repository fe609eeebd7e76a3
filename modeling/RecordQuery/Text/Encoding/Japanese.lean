import RecordQuery.Text.Encoding.Codes
import RecordQuery.Text.Encoding.Japanese.Basic
import RecordQuery.Text.Encoding.Japanese.Extended
import RecordQuery.Text.Encoding.Japanese.Supplementary
import RecordQuery.Text.Encoding.Japanese.Vendor

/-!
# Japanese text

Characters have rows and places in a plane. Codes hold them shifted, so
that bytes are left for narrow katakana, or in two bytes from 0xa1 on. The
extended set has two planes and two editions.
-/

namespace RecordQuery.Encoding.Japanese

/-! ### Sets -/

def basic? (code : Nat) : Option (List Char) := (Chart.basicJapanese.char? code).map ([·])

def supplementary? (code : Nat) : Option (List Char) :=
  (Chart.supplementaryJapanese.char? code).map ([·])

inductive Edition where
  | first | later
deriving DecidableEq

def firstPlane? (edition : Edition) (code : Nat) : Option (List Char) :=
  let added := if edition = .later then Chart.laterFirst.char? code else none
  (Chart.joinedJapanese.lookup code).map String.toList |>.or
    (((Chart.basicJapanese.char? code).or (Chart.extendedFirst.char? code)).or added |>.map ([·]))

def secondPlane? (edition : Edition) (code : Nat) : Option (List Char) :=
  let changed := if edition = .later then Chart.laterSecond.char? code else none
  (changed.or (Chart.extendedSecond.char? code)).map ([·])

/-- A letter of the Roman set, which has a yen sign and an overline. -/
def roman? (byte : Nat) : Option Char :=
  if byte = 0x5c then some '¥'
  else if byte = 0x7e then some '‾'
  else if byte < 0x80 then some (Char.ofNat byte)
  else none

def katakana? (byte : Nat) : Option Char :=
  if 0xa1 ≤ byte ∧ byte ≤ 0xdf then some (Char.ofNat (0xff61 + (byte - 0xa1))) else none

/-! ### Shifted pairs -/

def shiftedPlace? (second : Nat) : Option Nat :=
  if 0x40 ≤ second ∧ second < 0x7f then some (second - 0x40)
  else if 0x80 ≤ second ∧ second < 0xfd then some (second - 0x41)
  else none

/-- The row, counted from zero, and the place in it of a shifted pair. A
first byte counts for two rows. -/
def shifted? (first second : Nat) : Option (Nat × Nat) := do
  let place ← shiftedPlace? second
  let half ←
    if 0x81 ≤ first ∧ first < 0xa0 then some (first - 0x81)
    else if 0xe0 ≤ first ∧ first < 0xfd then some (first - 0xc1)
    else none
  some (2 * half + place / 94, place % 94)

def code (row place : Nat) : Nat := (row + 0x21) * 256 + (place + 0x21)

/-- Rows of the second plane that come first in shifted pairs; those from
78 on come after them. -/
def earlyRows : List Nat := [1, 8, 3, 4, 5, 12, 13, 14, 15]

def ofShifted? (single? : Nat → Option Char) (pair? : Nat → Nat → Option (List Char)) :
    CodeReader := fun byte rest =>
  match single? byte, rest with
  | some c, _ => some ([c], 0)
  | none, second :: _ => (pair? byte second).map fun chars => (chars, 1)
  | none, [] => none

def ascii? (byte : Nat) : Option Char := if byte < 0x80 then some (Char.ofNat byte) else none

def shiftedBasic? (first second : Nat) : Option (List Char) := do
  let (row, place) ← shifted? first second
  basic? (code row place)

def shifted : CodeReader := ofShifted? (fun byte => (ascii? byte).or (katakana? byte)) shiftedBasic?

def vendorByte? (byte : Nat) : Option Char :=
  if byte ≤ 0x80 then some (Char.ofNat byte)
  else if byte = 0xa0 then some '\uf8f0'
  else if 0xfd ≤ byte then some (Char.ofNat (0xf8f1 + (byte - 0xfd)))
  else katakana? byte

def userChar? (first second : Nat) : Option Char := do
  let place ← shiftedPlace? second
  if 0xf0 ≤ first ∧ first ≤ 0xf9 then some (Char.ofNat (0xe000 + (first - 0xf0) * 188 + place))
  else none

def vendorPair? (first second : Nat) : Option (List Char) :=
  match (Chart.vendorJapanese.char? (first * 256 + second)).or (userChar? first second) with
  | some c => some [c]
  | none => shiftedBasic? first second

def shiftedVendor : CodeReader := ofShifted? vendorByte? vendorPair?

def extendedPair? (edition : Edition) (first second : Nat) : Option (List Char) := do
  let (row, place) ← shifted? first second
  if row < 94 then
    if code row place = 0x2140 then some ['\\']
    else firstPlane? edition (code row place)
  else
    let row := earlyRows.getD (row - 94) (row - 94 - earlyRows.length + 78)
    secondPlane? edition (code (row - 1) place)

def shiftedExtended (edition : Edition) : CodeReader :=
  ofShifted? (fun byte => (roman? byte).or (katakana? byte)) (extendedPair? edition)

/-! ### Bytes from 0xa1 on -/

def ofUpper? (plane? other? : Nat → Option (List Char)) : CodeReader := fun byte rest =>
  if byte < 0x80 then some ([Char.ofNat byte], 0)
  else
    match byte, rest with
    | 0x8e, second :: _ => (katakana? second).map fun c => ([c], 1)
    | 0x8f, second :: third :: _ =>
      ((planeCode? second third).bind other?).map fun chars => (chars, 2)
    | _, second :: _ => ((planeCode? byte second).bind plane?).map fun chars => (chars, 1)
    | _, [] => none

def upper : CodeReader := ofUpper? basic? supplementary?

/-- The second plane fills rows that the supplementary set leaves free. The
tilde is wide here. -/
def upperExtended (edition : Edition) : CodeReader :=
  ofUpper? (fun code => if code = 0x2232 then some ['～'] else firstPlane? edition code)
    fun code => (secondPlane? edition code).or (supplementary? code)

end RecordQuery.Encoding.Japanese
