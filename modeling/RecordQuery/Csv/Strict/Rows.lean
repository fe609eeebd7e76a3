import RecordQuery.Text.Blank
import RecordQuery.Text.Pattern
import RecordQuery.Text.Search

/-!
# Rows of a text in lines

A text is read line by line. Where a single character separates fields, a
field that starts with a quote goes on to the next quote that is not
doubled, over line ends; nothing but a separator or the end of the line may
follow that quote. Where a pattern separates fields, each line is a row and
quotes mean nothing.
-/

namespace RecordQuery.Csv.Strict

abbrev Cell := Option (List Char)

theorem flatten_consFirst (c : Char) (lines : List (List Char)) :
    (Text.consFirst c lines).flatten = c :: lines.flatten := by
  cases lines <;> rfl

/-- The lines of a text with their ends. A carriage return and a line feed
are one end. -/
def lines : List Char → List (List Char)
  | [] => []
  | '\r' :: '\n' :: rest => ['\r', '\n'] :: lines rest
  | c :: rest =>
    if c == '\n' || c == '\r' then [c] :: lines rest else Text.consFirst c (lines rest)

theorem flatten_lines (text : List Char) : (lines text).flatten = text := by
  fun_induction lines text with
  | case1 => rfl
  | case2 rest ih => simp [ih]
  | case3 c rest _ _ ih => simp [ih]
  | case4 c rest _ _ ih => rw [flatten_consFirst, ih]

inductive Stage where
  | rowStart | fieldStart | inField | inQuotes
  | afterQuote
  | lineEnd
deriving DecidableEq

structure Reader where
  stage : Stage
  field : List Char
  row : List (List Char)

namespace Reader

def start : Reader := ⟨.rowStart, [], []⟩

def push (reader : Reader) (c : Char) (stage : Stage) : Reader :=
  { reader with field := c :: reader.field, stage := stage }

def endField (reader : Reader) (stage : Stage) : Reader :=
  ⟨stage, [], reader.field.reverse :: reader.row⟩

def isLineEnd (c : Char) : Bool := c == '\n' || c == '\r'

def step? (separator : Char) (isStrict : Bool) (reader : Reader) (c : Char) : Option Reader :=
  let plain :=
    if c == separator then reader.endField .fieldStart else reader.push c .inField
  let opening := if c == '"' then { reader with stage := .inQuotes } else plain
  match reader.stage with
  | .rowStart => some (if isLineEnd c then { reader with stage := .lineEnd } else opening)
  | .fieldStart => some (if isLineEnd c then reader.endField .lineEnd else opening)
  | .inField => some (if isLineEnd c then reader.endField .lineEnd else plain)
  | .inQuotes =>
    some (if c == '"' then { reader with stage := .afterQuote } else reader.push c .inQuotes)
  | .afterQuote =>
    if c == '"' then some (reader.push c .inQuotes)
    else if c == separator then some (reader.endField .fieldStart)
    else if isLineEnd c then some (reader.endField .lineEnd)
    else if isStrict then none
    else some (reader.push c .inField)
  | .lineEnd => if isLineEnd c then some reader else none

def endLine (reader : Reader) : Reader :=
  match reader.stage with
  | .inQuotes => reader
  | .rowStart | .lineEnd => { reader with stage := .rowStart }
  | _ => reader.endField .rowStart

def line? (separator : Char) (isStrict : Bool) (reader : Reader) (line : List Char) :
    Option Reader :=
  (line.foldlM (step? separator isStrict) reader).map endLine

end Reader

def rowsOfLines? (separator : Char) : Reader → List (List Char) → Option (List (List (List Char)))
  | reader, [] => if reader.stage == .inQuotes then none else some []
  | reader, line :: rest => do
    let next ← reader.line? separator true line
    if next.stage == .rowStart then
      some (next.row.reverse :: (← rowsOfLines? separator .start rest))
    else rowsOfLines? separator next rest

/-- The row of a line that is read on its own. Quotes that are not closed
end with it. -/
def rowOfLine? (separator : Char) (line : List Char) : Option (List (List Char)) := do
  let reader ← Reader.start.line? separator false line
  if reader.stage == .inQuotes then some (reader.endField .rowStart).row.reverse
  else some reader.row.reverse

/-- A row that holds something: several cells, or one that is not blank. -/
def holdsSomething : List Cell → Bool
  | [] => false
  | [some text] => !Text.isBlankText text
  | _ => true

def splitLine (pattern : Text.Pattern) (groups : Nat) (line : List Char) : List Cell :=
  pattern.split groups (Text.trim line)

end RecordQuery.Csv.Strict
