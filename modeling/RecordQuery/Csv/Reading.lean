import RecordQuery.Csv.Column
import RecordQuery.Csv.Guess
import RecordQuery.Csv.Rows
import RecordQuery.Csv.Strict.Reading
import RecordQuery.Failure
import RecordQuery.Text.Encoding
import RecordQuery.Text.Pattern.Reading

/-!
# Tables of separated fields

The first row names the columns. A row that is too short is filled up with
missing cells; one that is too long makes the text unreadable, except that
a first row of data with surplus fields marks so many leading columns as
labels of the rows, which belong to no record. So a text is read whose
separator is a single ASCII character or blanks; other separators follow
the rules of strict tables.
-/

namespace RecordQuery.Csv

abbrev Columns := List (String × List Value)

def fill (width : Nat) (row : List (List Char)) : List (List Char) :=
  row ++ List.replicate (width - row.length) []

/-- Rows of data brought to one width, that of the header or of the first
of them. -/
def fillRows? (width : Nat) : List (List (List Char)) → Option (List (List (List Char)))
  | [] => some []
  | first :: rest =>
    let width := max width first.length
    if rest.any fun row => width < row.length then none
    else some ((first :: rest).map (fill width))

def columnsOfRows? : List (List (List Char)) → Option Columns
  | [] => none
  | header :: data => do
    let rows ← fillRows? header.length data
    let labels := ((rows.head?.map List.length).getD 0) - header.length
    some ((columnNames header).zipIdx.map fun (name, place) =>
      (name, column (rows.map fun row => row.getD (labels + place) [])))

def dropMark (mark : List Char) (text : List Char) : List Char :=
  if mark.isPrefixOf text then text.drop mark.length else text

def byteText (bytes : ByteArray) : List Char :=
  bytes.toList.map fun byte => Char.ofNat byte.toNat

def ofByteText? (text : List Char) : Option (List Char) :=
  Encoding.utf8? ⟨(text.map fun c => c.toNat.toUInt8).toArray⟩

inductive Content where
  | text (text : List Char)
  /-- Bytes in UTF-8. Those that a field does not keep need not encode
  anything. -/
  | utf8 (bytes : ByteArray)

def Content.text? : Content → Option (List Char)
  | .text chars => some chars
  | .utf8 bytes => Encoding.utf8? bytes

def Content.rows? (separator : Separator) : Content → Option (List (List (List Char)))
  | .text chars => Csv.rows? separator (dropMark ['\ufeff'] chars)
  | .utf8 bytes => do
    let rows ← Csv.rows? separator (dropMark ['\u00ef', '\u00bb', '\u00bf'] (byteText bytes))
    rows.mapM fun row => row.mapM ofByteText?

inductive Delimiter where
  | separator (separator : Separator)
  | wide (c : Char)
  | pattern (text : List Char)
  | guessed

def Delimiter.ofText? : List Char → Option Delimiter
  | [] | ['\n'] => none
  | [c] => some (if c.toNat < 128 then .separator (.char c) else .wide c)
  | ['\\', 's', '+'] => some (.separator .blanks)
  | text => some (.pattern text)

/-- The columns of a text whose separator is guessed from its first line,
which is read as the header on its own. -/
def guessedColumns? (text : List Char) : Except Failure (Option Columns) :=
  let first := ((Strict.lines text).head?).getD []
  match guess? first with
  | none => .error .noDelimiter
  | some c => .ok do
    let header ← Strict.rowOfLine? c first
    let rows ← Strict.rowsOfLines? c .start ((Strict.lines text).drop 1)
    Strict.columns? (header.map some)
      ((rows.map fun row => row.map some).filter Strict.holdsSomething)

def splitColumns? (source text : List Char) : Except Failure (Option Columns) :=
  match Text.Pattern.read source with
  | .error malformed => .error (.malformedPattern (malformed.message source))
  | .ok (pattern, groups) =>
    .ok (Strict.columnsOfRows? ((Strict.lines text).map (Strict.splitLine pattern groups)))

/-- The columns of a table; none if it cannot be read. A pattern is read
only if there is a text to be split. -/
def columns? (delimiter : Delimiter) (content : Content) : Except Failure (Option Columns) :=
  match delimiter with
  | .separator separator => .ok ((content.rows? separator).bind columnsOfRows?)
  | .wide c => .ok do
    let rows ← Strict.rowsOfLines? c .start (Strict.lines (← content.text?))
    Strict.columnsOfRows? (rows.map fun row => row.map some)
  | .pattern source =>
    match content.text? with
    | some text => splitColumns? source text
    | none => .ok none
  | .guessed =>
    match content.text? with
    | some text => guessedColumns? text
    | none => .ok none

def records (columns : Columns) : List Record :=
  let count := (columns.head?.map fun column => column.2.length).getD 0
  (List.range count).map fun place =>
    columns.map fun column => (column.1, column.2.getD place .null)

end RecordQuery.Csv
