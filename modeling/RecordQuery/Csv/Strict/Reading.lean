import RecordQuery.Csv.Column
import RecordQuery.Csv.Strict.Column

/-!
# Strict tables

The first row that holds something names the columns. A row that is too
short is filled up with missing cells; one that is too long makes the text
unreadable. Two arrangements mark leading columns as labels, which belong
to no record: a first row of data with surplus fields, and a first row of
data that names the labels, so that the row after it is as long as both
rows together.
-/

namespace RecordQuery.Csv.Strict

/-- A name that no earlier name has, by numbers put to its end as often as
it takes. -/
def freshName : Nat → List (String × Nat) → String → String × List (String × Nat)
  | 0, used, name => (name, used)
  | count + 1, used, name =>
    match used.lookup name with
    | none => (name, (name, 1) :: used)
    | some n => freshName count ((name, n + 1) :: used) (name ++ "." ++ toString n)

def freshNames : List (String × Nat) → List String → List String
  | _, [] => []
  | used, name :: rest =>
    let (fresh, used) := freshName (used.length + 1) used name
    fresh :: freshNames used rest

structure Layout where
  names : List String
  labels : Nat
  rows : List (List Cell)

def nameOf : Cell → String
  | none => "None"
  | some text => String.ofList text

def layout (names : List String) (rows : List (List Cell)) : Layout :=
  match rows with
  | first :: second :: rest =>
    if second.length == first.length + names.length then
      ⟨freshNames [] (first.map nameOf ++ names), first.length, second :: rest⟩
    else surplus first
  | first :: _ => surplus first
  | [] => ⟨names, 0, []⟩
where
  /-- Surplus fields in the first row of data are labels without names. -/
  surplus (first : List Cell) : Layout :=
    let labels := first.length - names.length
    ⟨List.replicate labels "" ++ names, labels, rows⟩

def columns? (header : List Cell) (rows : List (List Cell)) :
    Option (List (String × List Value)) :=
  let layout := layout (columnNames (header.map (·.getD "None".toList))) rows
  if layout.rows.any fun row => layout.names.length < row.length then none
  else some ((layout.names.zipIdx.drop layout.labels).map fun (name, place) =>
    (name, column (layout.rows.map fun row => row.getD place none)))

/-- A mark of the byte order before the first cell is no part of it; nor
are quotes right after it. None if such quotes are not closed. -/
def dropMark? (row : List Cell) : Option (List Cell) :=
  match row with
  | some ('\ufeff' :: '"' :: text) :: cells =>
    match text.dropWhile (· != '"') with
    | _ :: rest => some (some (text.takeWhile (· != '"') ++ rest) :: cells)
    | [] => none
  | some ('\ufeff' :: text) :: cells => some (some text :: cells)
  | _ => some row

def columnsOfRows? (rows : List (List Cell)) : Option (List (String × List Value)) := do
  let isMarked := rows.head?.any holdsSomething
  match rows.filter holdsSomething with
  | [] => none
  | header :: data => columns? (← if isMarked then dropMark? header else some header) data

end RecordQuery.Csv.Strict
