import RecordQuery.Csv.Rows
import RecordQuery.Json.Writing
import RecordQuery.Text.Case

/-!
# Reports

Selected records are printed in a two-column layout, as JSON or as rows of
separated fields. They can be counted by a field, and summed up.
-/

namespace RecordQuery.Report

/-- Keeps a number of characters, or all but a number of them if it is
negative. -/
def clip (count : Int) (text : List Char) : List Char :=
  if count < 0 then text.take (text.length - count.natAbs) else text.take count.natAbs

def shorten (width : Int) (text : List Char) : List Char :=
  if width < text.length then clip (width - 3) text ++ ['.', '.', '.'] else text

def pad (width : Nat) (text : List Char) : List Char :=
  text ++ List.replicate (width - text.length) ' '

def valueWidth : Nat := 30

def keyWidth : Nat := 10

mutual
def printed : Value → List Char
  | .null => "null".toList
  | .list items => shorten valueWidth ('[' :: Value.separated (printedItems items) ++ [']'])
  | value => shorten valueWidth value.shownText
def printedItems : List Value → List (List Char)
  | [] => []
  | item :: rest => printed item :: printedItems rest
end

def row (left right : List Char) : List Char := pad keyWidth left ++ " | ".toList ++ right

def recordLine (width : Int) (keyField : String) (record : Record) : List Char :=
  let key := printed ((record.find? keyField).getD (.text ""))
  let others := record.filter fun field => field.1 != keyField
  let details := Value.separated
    (others.map fun field => field.1.toList ++ ':' :: ' ' :: printed field.2)
  row (key.take keyWidth) (shorten (width - keyWidth - 3) details)

def widthFor (columns : Int) : Int := max 80 (min columns 160)

def lines (texts : List (List Char)) : List Char := texts.flatMap (· ++ ['\n'])

def console (width : Int) (keyField : String) : List Record → List Char
  | [] => lines ["No results found.".toList]
  | records =>
    let heading := row (Text.upper keyField.toList) "Details".toList
    lines ([] :: heading :: List.replicate width.toNat '-' ::
      records.map (recordLine width keyField))

def json (pretty : Bool) (values : List Value) : List Char := Json.write pretty (.list values)

/-- Names of all fields in the order of first appearance, the key field
before the others. -/
def columns (keyField : Option String) (records : List Record) : List String :=
  let fields := (records.flatMap Record.fields).eraseDups
  match keyField with
  | some field => if fields.contains field then field :: fields.erase field else fields
  | none => fields

def itemText : Value → List Char
  | .null => []
  | value => value.shownText

/-- A value in a cell: nothing for null, an object as JSON, and a list
joined by a delimiter. -/
def cellText (delimiter : List Char) : Value → List Char
  | .null => []
  | .list items => delimiter.intercalate (items.map itemText)
  | .object fields => Json.write false (.object fields)
  | value => value.shownText

def csv (keyField : Option String) (delimiter : String) : List Record → List Char
  | [] => []
  | records =>
    let names := columns keyField records
    Csv.writeRows (names.map String.toList ::
      records.map fun record => names.map fun name =>
        cellText delimiter.toList (record.get name))

def countName : Value → String
  | .null => "null"
  | value => value.shown

def increment (name : String) : List (String × Nat) → List (String × Nat)
  | [] => [(name, 1)]
  | (other, count) :: rest =>
    if other == name then (other, count + 1) :: rest else (other, count) :: increment name rest

def countBy (field : String) (records : List Record) : List (String × Nat) :=
  let values := records.flatMap fun record => (record.get field).flattened
  values.foldl (fun counts value => increment (countName value) counts) []

def countsValue (counts : List (String × Nat)) : Value :=
  .object (counts.map fun count => (count.1, .int count.2))

def summary (records : List Record) (total : Int) (query : String) (keyField : Option String) :
    Value :=
  let count := records.length
  let start := [("query", .text query), ("count", .int count), ("total", .int total)]
  let (keys, message) : Record × List Char :=
    match records with
    | [] => ([], "No results found.".toList)
    | _ => ([("ids", .list (records.map (Record.key keyField)))],
      Text.natText count ++ " of ".toList ++ Text.intText total ++ " records matched.".toList)
  .object (start ++ keys ++ [("message", .text (String.ofList message))])

end RecordQuery.Report
