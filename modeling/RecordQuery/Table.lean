import RecordQuery.Engine
import RecordQuery.FieldInfo
import RecordQuery.Settings

/-!
# Tables

A table holds a collection, the current query and the records it selects.
Records are told apart by the shown form of their key, so that 1 and the
text `1` name the same record. Every change of the collection selects
again; what a failing step has changed by then stays changed.
-/

namespace RecordQuery

structure Table where
  settings : Settings
  /-- What names the field of the keys; only a text does. -/
  keyName : Value
  records : List Record
  engine : Engine
  /-- The query last applied; none if there was an attempt without one. -/
  query : Option String
  filtered : List Record

structure BatchReport where
  added : Nat
  updated : Nat
  refused : List Value

structure ReplaceReport where
  success : Bool
  replaced : Nat
  refused : List Value
  duplicates : List String

namespace BatchReport

def toValue (report : BatchReport) : Value :=
  .object [("added", .int report.added), ("updated", .int report.updated),
    ("invalid", .list report.refused)]

end BatchReport

namespace ReplaceReport

def toValue (report : ReplaceReport) : Value :=
  .object [("success", .bool report.success), ("replaced", .int report.replaced),
    ("invalid", .list report.refused), ("duplicates", .list (report.duplicates.map Value.text))]

end ReplaceReport

namespace Query

/-- A length compared with a limit; what is no number limits nothing. -/
def exceeds (length : Nat) (limit : Value) : Bool :=
  match limit.place? with
  | some place => Double.before place (Double.placeOfInt length)
  | none => false

def validate (query : Option String) (limit : Value) : Except QueryProblem String :=
  match query with
  | none => .error .absent
  | some text => if exceeds text.length limit then .error (.tooLong limit) else .ok text

end Query

namespace Table

/-- A table of the given records; a key field that is not given, or empty,
is taken from the settings. -/
def new (records : List Record) (keyField : Value) (settings : Settings) : Table :=
  let name := if keyField.isTruthy then keyField else settings.keyField
  ⟨settings, name, records, .new records name.fieldName?, some "", records⟩

def keyField (table : Table) : Option String := table.keyName.fieldName?

def key (table : Table) (record : Record) : Value := record.key table.keyField

def keyText (table : Table) (record : Record) : String := (table.key record).shown

def limit (table : Table) : Value := table.settings.engineSetting "max_query_length" (.int 1000)

def filter (table : Table) (query : Option String) : Except Failure (List Value) :=
  match Query.validate query table.limit with
  | .ok text => table.engine.filter text
  | .error problem => .error (.rejected problem query)

/-- Failures that are made up for by selecting every record. -/
def isCaught : Failure → Bool
  | .query .. | .rejected .. => true
  | _ => false

def fallsBack (table : Table) : Bool :=
  (table.settings.engineSetting "fallback_on_error" (.bool true)).isTruthy

def select (table : Table) (records : List Record) : Table × Except Failure (List Record) :=
  ({ table with filtered := records }, .ok records)

def apply (table : Table) (query : Option String) : Table × Except Failure (List Record) :=
  -- From here on the query is current, even if it fails.
  let table := { table with query := query }
  match query with
  | none => (table, .error .noQuery)
  | some text =>
    if Text.isBlankText text.toList then table.select table.records
    else match table.filter query with
      | .ok keys =>
        let texts := keys.map Value.shown
        table.select (table.records.filter fun record => texts.contains (table.keyText record))
      | .error failure =>
        if isCaught failure && table.fallsBack then table.select table.records
        else (table, .error failure)

def holding (table : Table) (records : List Record) : Table :=
  { table with records := records, engine := { table.engine with records := records } }

def sync {α : Type} (table : Table) (result : α) : Table × Except Failure α :=
  let (synced, selected) := (table.holding table.records).apply table.query
  (synced, selected.map fun _ => result)

def indexOf? (table : Table) (key : Value) : Option Nat :=
  table.records.findIdx? fun record => table.keyText record == key.shown

def get? (table : Table) (key : Value) : Option Record :=
  table.records.find? fun record => table.keyText record == key.shown

def acceptable? (table : Table) : Value → Option Record
  | .object record => if (table.key record).isTruthy then some record else none
  | _ => none

def put (table : Table) (record : Record) : Table :=
  match table.indexOf? (table.key record) with
  | some index => { table with records := table.records.set index record }
  | none => { table with records := table.records ++ [record] }

def add (table : Table) (given : Value) : Table × Except Failure Bool :=
  match table.acceptable? given with
  | some record => (table.put record).sync true
  | none => (table, .ok false)

def remove (table : Table) (key : Value) : Table × Except Failure (Option Record) :=
  match key, table.indexOf? key with
  | .null, _ | _, none => (table, .ok none)
  | _, some index =>
    { table with records := table.records.eraseIdx index }.sync table.records[index]?

def tally (state : Table × BatchReport) (given : Value) : Table × BatchReport :=
  let (table, report) := state
  match table.acceptable? given with
  | none => (table, { report with refused := report.refused ++ [given] })
  | some record =>
    match table.indexOf? (table.key record) with
    | some _ => (table.put record, { report with updated := report.updated + 1 })
    | none => (table.put record, { report with added := report.added + 1 })

def append (table : Table) (given : List Value) : Table × Except Failure BatchReport :=
  let (stored, report) := given.foldl tally (table, ⟨0, 0, []⟩)
  -- Nothing was stored, so the selection still holds.
  if report.added + report.updated == 0 then (stored, .ok report)
  else stored.sync report

structure Sorted where
  kept : List Record
  refused : List Value
  duplicates : List String

def sortOut (table : Table) (state : Sorted) (given : Value) : Sorted :=
  match table.acceptable? given with
  | none => { state with refused := state.refused ++ [given] }
  | some record =>
    let text := table.keyText record
    if state.kept.any fun other => table.keyText other == text then
      { state with duplicates := state.duplicates ++ [text] }
    else { state with kept := state.kept ++ [record] }

def replace (table : Table) (given : Value) : Table × Except Failure ReplaceReport :=
  match given with
  | .list candidates =>
    let sorted := candidates.foldl table.sortOut ⟨[], [], []⟩
    { table with records := sorted.kept }.sync
      ⟨true, sorted.kept.length, sorted.refused, sorted.duplicates⟩
  | _ => (table, .ok ⟨false, 0, [], []⟩)

def describe (table : Table) (types : Record) : List (String × FieldInfo) :=
  FieldInfo.describe table.records none types

def placeholder (table : Table) : String := FieldInfo.placeholder (table.describe [])

end Table

end RecordQuery
