import RecordQuery.Csv.Decimal
import RecordQuery.Value

/-!
# Columns

The cells of a column are read as one kind of value: integers, floats,
booleans or texts, the first that fits all of them. Cells that stand for a
missing value are null in each kind, and make floats of integers. Columns are
told apart by their names: one that is taken already gets the least number
that makes it new.
-/

namespace RecordQuery.Csv

def missingMarks : List String := [
  "", "#N/A", "#N/A N/A", "#NA", "-1.#IND", "-1.#QNAN", "-NaN", "-nan", "1.#IND", "1.#QNAN",
  "<NA>", "N/A", "NA", "NULL", "NaN", "None", "n/a", "nan", "null"]

def isMissing (cell : List Char) : Bool := missingMarks.contains (String.ofList cell)

inductive Fault where
  | malformed | tooLarge

/-- An integer with a sign and blanks around it, within bounds. The bounds
are checked before what follows the digits. -/
def integer (least most : Int) (cell : List Char) : Except Fault Int :=
  let (negative, unsigned) := signOf (skipSpaces cell)
  match digitsOf unsigned with
  | [] => .error .malformed
  | digits =>
    let n := Double.signed negative (Text.ofDigits digits)
    if n < least || most < n then .error .tooLarge
    else if (skipSpaces (unsigned.dropWhile Char.isDigit)).isEmpty then .ok n
    else .error .malformed

def integers (read : List Char → Except Fault Int) :
    List (List Char) → Except Fault (List (Option Int))
  | [] => .ok []
  | cell :: rest => do
    let first ← if isMissing cell then .ok none else do .ok (some (← read cell))
    .ok (first :: (← integers read rest))

def leastSigned : Int := -0x8000000000000000

def mostSigned : Int := 0x7fffffffffffffff

def mostUnsigned : Int := 0xffffffffffffffff

def signed64 : List Char → Except Fault Int := integer leastSigned mostSigned

def isNegative (cell : List Char) : Bool := (skipSpaces cell).head? == some '-'

/-- A negative cell is passed over here, whatever it holds. -/
def unsigned64 (cell : List Char) : Except Fault Int :=
  if isNegative cell then .ok (-1) else integer 0 mostUnsigned cell

/-- Integers of a column that has missing cells. The least integer stands
for a missing one as well. -/
def floatOfInteger : Option Int → Value
  | none => .null
  | some n => if n == leastSigned then .null else .float (Double.nearest (n < 0) n.natAbs 1)

def intValue : Option Int → Value
  | none => .null
  | some n => .int n

def boolean? (cell : List Char) : Option Bool :=
  match String.ofList (cell.map Char.toLower) with
  | "true" => some true
  | "false" => some false
  | _ => none

def cellsAs? (read : List Char → Option Value) (cells : List (List Char)) : Option (List Value) :=
  cells.mapM fun cell => if isMissing cell then some .null else read cell

def textOf (cell : List Char) : Value := .text (String.ofList cell)

def texts (cells : List (List Char)) : List Value :=
  cells.map fun cell => if isMissing cell then .null else textOf cell

def otherCells (cells : List (List Char)) : List Value :=
  ((cellsAs? (fun cell => (number? cell).map fun x => .float x.value) cells).or
    (cellsAs? (fun cell => (boolean? cell).map .bool) cells)).getD (texts cells)

/-- A column whose integers go beyond the signed ones: unsigned integers,
or texts if some are negative or missing. Texts are kept as written where
unsigned integers stand beside negative or missing ones. -/
def wideCells (cells : List (List Char)) : List Value :=
  match integers unsigned64 cells with
  | .error .malformed => otherCells cells
  | .error .tooLarge => texts cells
  | .ok values =>
    let hasNegative := values.contains (some (-1))
    let isWide := values.any fun value => value.any (mostSigned < ·)
    if isWide && (hasNegative || values.contains none) then cells.map textOf
    else if hasNegative then texts cells
    else values.map intValue

def column (cells : List (List Char)) : List Value :=
  match integers signed64 cells with
  | .ok values =>
    if values.contains none then values.map floatOfInteger else values.map intValue
  | .error .malformed => otherCells cells
  | .error .tooLarge => wideCells cells

/-! ### Names of columns -/

/-- The name of a column: its own if it is not taken yet, else with the
least number that makes it new. -/
def distinctName (names : List String) (used : List (String × Nat)) (name : String) :
    String × List (String × Nat) :=
  let raise := fun (name : String) (count : Nat) (used : List (String × Nat)) =>
    (name, count) :: used
  match used.lookup name with
  | none => (name, raise name 1 used)
  | some count =>
    let numbered := fun n : Nat => name ++ "." ++ toString n
    let free := ((List.range (names.length + 1)).map (· + count)).find? fun n =>
      !names.contains (numbered n)
    let n := free.getD count
    (numbered n, raise (numbered n) 1 (raise name (n + 1) used))

def nameColumns (places : List Nat) (names : List String) : List String :=
  (places.foldl (fun (state : List String × List (String × Nat)) place =>
    let (name, used) := distinctName state.1 state.2 (state.1.getD place "")
    (state.1.set place name, used)) (names, [])).1

/-- Names of the columns of a header. Empty ones are called by their place,
and give way to names that are written. -/
def columnNames (header : List (List Char)) : List String :=
  let places := List.range header.length
  let isNamed := fun place => !(header.getD place []).isEmpty
  let names := places.map fun place =>
    if isNamed place then String.ofList (header.getD place []) else "Unnamed: " ++ toString place
  nameColumns (places.filter isNamed ++ places.filter (!isNamed ·)) names

end RecordQuery.Csv
