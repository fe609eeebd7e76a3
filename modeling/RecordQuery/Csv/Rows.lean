/-!
# Rows of separated fields

A field that starts with a quote goes on to the next quote that is not
doubled, over line ends and separators; what follows that quote up to the
end of the field belongs to it as well. A quote anywhere else is a
character like others. Lines that are empty or blank are no rows. A field
ends at its first NUL, whatever follows.

Rows are written with commas, and end in a carriage return and a line feed. A
field is put in quotes if it holds a comma, a quote or a character of a line
end, and a quote inside it is then written twice.
-/

namespace RecordQuery.Csv

inductive Separator where
  | char (c : Char)
  /-- Any run of blanks; those at the ends of a line separate nothing. -/
  | blanks
deriving DecidableEq

def isBlankChar (c : Char) : Bool := c == ' ' || c == '\t'

def Separator.accepts (separator : Separator) (c : Char) : Bool :=
  match separator with
  | char d => c == d
  | blanks => isBlankChar c

inductive Place where
  | rowStart
  /-- After blanks only, on a line that may turn out to be blank. -/
  | blankStart
  | fieldStart
  | inField
  | inQuotes
  | afterQuote
  | inGap
  | afterReturn
  | afterBlankReturn
deriving DecidableEq

/-- What has been read. The field and the row that are not finished, the
rows, and the blank lines right before that ended in a carriage return
alone, have their latest part first. -/
structure Reader where
  place : Place
  field : List Char
  row : List (List Char)
  rows : List (List (List Char))
  skipped : List (List Char)

namespace Reader

def start : Reader := ⟨.rowStart, [], [], [], []⟩

def push (reader : Reader) (place : Place) (c : Char) : Reader :=
  { reader with place := place, field := c :: reader.field }

def fieldText (reader : Reader) : List Char := reader.field.reverse.takeWhile (· != '\x00')

def endField (reader : Reader) (place : Place) : Reader :=
  { reader with place := place, field := [], row := reader.fieldText :: reader.row }

def endRow (reader : Reader) (place : Place) : Reader :=
  { reader with place := place, row := [], rows := reader.row.reverse :: reader.rows }

def skipLine (reader : Reader) (c : Char) : Reader :=
  if c == '\r' then
    { reader with
      place := .afterBlankReturn, field := [], skipped := reader.field.reverse :: reader.skipped }
  else { reader with place := .rowStart, field := [], skipped := [] }

/-- Blank lines left out before a row that starts with blanks are rows
after all, unless a line feed came in between. -/
def restore (reader : Reader) : Reader :=
  { reader with rows := reader.skipped.map ([·]) ++ reader.rows, skipped := [] }

def isLineEnd (c : Char) : Bool := c == '\n' || c == '\r'

def afterRow (c : Char) : Place := if c == '\r' then .afterReturn else .rowStart

def afterField : Separator → Place
  | .char _ => .fieldStart
  | .blanks => .inGap

def plain (separator : Separator) (reader : Reader) (c : Char) : Reader :=
  if isLineEnd c then (reader.endField .fieldStart).endRow (afterRow c)
  else if separator.accepts c then reader.endField (afterField separator)
  else reader.push .inField c

def opening (separator : Separator) (reader : Reader) (c : Char) : Reader :=
  if c == '"' then { reader with place := .inQuotes } else reader.plain separator c

def isBlank (separator : Separator) (c : Char) : Bool :=
  isBlankChar c && (separator == .blanks || !separator.accepts c)

def first (separator : Separator) (reader : Reader) (c : Char) : Reader :=
  if isLineEnd c then reader.skipLine c
  else if isBlank separator c then reader.push .blankStart c
  else { reader with skipped := [] }.opening separator c

def afterGap (separator : Separator) (reader : Reader) (c : Char) : Reader :=
  if isLineEnd c then reader.endRow (afterRow c)
  else if separator.accepts c then reader
  else reader.opening separator c

def step (separator : Separator) (reader : Reader) (c : Char) : Reader :=
  match reader.place with
  | .rowStart => reader.first separator c
  | .blankStart =>
    if isLineEnd c then reader.skipLine c
    else if isBlank separator c then reader.push .blankStart c
    else if separator == .blanks then { reader with field := [] }.opening separator c
    else reader.restore.plain separator c
  | .fieldStart => reader.opening separator c
  | .inField => reader.plain separator c
  | .inQuotes =>
    if c == '"' then { reader with place := .afterQuote } else reader.push .inQuotes c
  | .afterQuote => if c == '"' then reader.push .inQuotes c else reader.plain separator c
  | .inGap => reader.afterGap separator c
  | .afterReturn =>
    if c == '\n' then { reader with place := .rowStart }
    else if separator == .blanks && isBlankChar c then { reader with place := .inGap }
    else if separator.accepts c then reader.endField .fieldStart
    else reader.first separator c
  | .afterBlankReturn =>
    if c == '\n' then { reader with place := .rowStart, skipped := [] }
    else reader.first separator c

def finish? (reader : Reader) : Option (List (List (List Char))) :=
  match reader.place with
  | .rowStart | .blankStart | .afterReturn | .afterBlankReturn => some reader.rows.reverse
  | .inQuotes => none
  | .inGap => some (reader.endRow .rowStart).rows.reverse
  | _ => some ((reader.endField .fieldStart).endRow .rowStart).rows.reverse

end Reader

def rows? (separator : Separator) (text : List Char) : Option (List (List (List Char))) :=
  (text.foldl (Reader.step separator) .start).finish?

/-! ### Writing -/

def needsQuotes (field : List Char) : Bool :=
  field.any fun c => c == ',' || c == '"' || c == '\r' || c == '\n'

def quoted (field : List Char) : List Char :=
  '"' :: field.flatMap (fun c => if c == '"' then ['"', '"'] else [c]) ++ ['"']

def writeField (field : List Char) : List Char :=
  if needsQuotes field then quoted field else field

/-- A row of one empty field is quoted, since an empty line holds no
field. -/
def writeRow (fields : List (List Char)) : List Char :=
  let text := if fields == [[]] then quoted [] else [','].intercalate (fields.map writeField)
  text ++ ['\r', '\n']

def writeRows (rows : List (List (List Char))) : List Char := rows.flatMap writeRow

end RecordQuery.Csv
