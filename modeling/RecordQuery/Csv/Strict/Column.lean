import RecordQuery.Csv.Column
import RecordQuery.Csv.Strict.Rows

/-!
# Columns of strict tables

A column is of integers or floats if all its cells are, missing ones
counting as floats; else of booleans, and else of texts. Integers that are
neither signed nor unsigned of 64 bits make the column one of texts.
-/

namespace RecordQuery.Csv.Strict

def isMissing : Cell → Bool
  | none => true
  | some text => Csv.isMissing text

structure CellNumber where
  value : Double
  whole : Option Int

/-- A number up to the first NUL; an integer may have none. -/
def number? (text : List Char) : Option CellNumber := do
  let number ← Csv.number? (text.takeWhile (· != '\x00'))
  if !number.isWhole then some ⟨number.value, none⟩
  else if text.contains '\x00' then none
  else
    let (negative, digits) := signOf (skipSpaces text)
    let n := Double.signed negative (Text.ofDigits (digitsOf digits))
    if n < leastSigned || mostUnsigned < n then none else some ⟨number.value, some n⟩

def numbers? (cells : List Cell) : Option (List (Option CellNumber)) :=
  cells.mapM fun cell =>
    if isMissing cell then some none
    else cell.bind fun text => (number? text).map some

def boolean? : List Char → Option Bool := fun text =>
  if ["True", "TRUE", "true"].contains (String.ofList text) then some true
  else if ["False", "FALSE", "false"].contains (String.ofList text) then some false
  else none

def textOf : Cell → Value
  | none => .null
  | some text => Csv.textOf text

def otherCells (cells : List Cell) : List Value :=
  let booleans := cells.mapM fun cell =>
    if isMissing cell then some Value.null else (cell.bind boolean?).map .bool
  booleans.getD (cells.map fun cell => if isMissing cell then .null else textOf cell)

/-- The values of a column. Where integers beyond the signed ones stand
beside negative or missing ones, the texts are kept as written. -/
def column (cells : List Cell) : List Value :=
  match numbers? cells with
  | none => otherCells cells
  | some numbers =>
    let wholes := numbers.filterMap fun number => number.bind CellNumber.whole
    let hasMissing := numbers.any Option.isNone
    let hasNegative := wholes.any (· < 0)
    let hasWide := wholes.any (mostSigned < ·)
    if hasWide && (hasMissing || hasNegative) then cells.map textOf
    else if wholes.length == cells.length then wholes.map .int
    else numbers.map fun number =>
      match number with
      | none => .null
      | some number => .float number.value

end RecordQuery.Csv.Strict
