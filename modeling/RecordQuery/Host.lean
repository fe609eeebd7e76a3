import RecordQuery.Limits
import RecordQuery.Table

/-!
# Tables on a host

A table asks its host for the forms of values and for the answers to queries,
and each of these may fail. A failure ends the operation where it stands, and
what was done before is not taken back. Nothing fails without a host that
fails, but for a query that is none, a key field that cannot be looked up and
a limit that is no number.
-/

namespace RecordQuery

/-- What a table asks for. -/
structure Host where
  /-- The form by which keys are told apart. -/
  print : Value → Except Failure String
  /-- The form in which a candidate is logged that is refused. -/
  quote : Value → Except Failure (List Char)
  /-- Keys of the records that match a query, which are looked up by a name. -/
  answer : List Record → Value → String → Except Failure (List Value)

def Limits.host (limits : Limits) : Host := ⟨limits.print, limits.quote, limits.answer⟩

/-- A length compared with a limit, which has to be a number. -/
def Query.overruns (length : Nat) (limit : Value) : Except Failure Bool :=
  match limit.kind with
  | .bool | .int | .float => .ok (exceeds length limit)
  | kind => .error (.notOrdered kind)

namespace Host

variable (host : Host)

-- ---------------------------------------------------------------------------
-- Queries
-- ---------------------------------------------------------------------------

def keyText (table : Table) (record : Record) : Except Failure String := do
  host.print (← record.lookUp table.keyName)

def validate (query : Option String) (limit : Value) : Except Failure String :=
  match query with
  | none => .error (.rejected .absent none)
  | some text => do
    if ← Query.overruns text.length limit then
      -- The limit is part of the message.
      let _ ← host.print limit
      .error (.rejected (.tooLong limit) query)
    else .ok text

def filter (table : Table) (query : Option String) : Except Failure (List Value) := do
  host.answer table.engine.records table.keyName (← host.validate query table.limit)

def found (table : Table) (query : Option String) : Except Failure (List String) := do
  (← host.filter table query).mapM host.print

/-- The records whose keys have one of some forms. -/
def having (table : Table) (texts : List String) : Except Failure (List Record) :=
  matching (fun record => do .ok (texts.contains (← host.keyText table record))) table.records

/-- Makes a query current and selects the records whose keys match it. Only
what fails before the records are gone through can be made up for. -/
def apply (table : Table) (query : Option String) : Table × Except Failure (List Record) :=
  let table := { table with query := query }
  match query with
  | none => (table, .error .noQuery)
  | some text =>
    if Text.isBlankText text.toList then table.select table.records
    else match host.found table query with
      | .ok texts =>
        match host.having table texts with
        | .ok records => table.select records
        | .error failure => (table, .error failure)
      | .error failure =>
        if Table.isCaught failure && table.fallsBack then table.select table.records
        else (table, .error failure)

def reselect {α : Type} (table : Table) (records : List Record) (result : α) :
    Table × Except Failure α :=
  let (synced, selected) := host.apply (table.holding records) table.query
  (synced, selected.map fun _ => result)

-- ---------------------------------------------------------------------------
-- Records
-- ---------------------------------------------------------------------------

def placeOf? (table : Table) (text : String) : List Record → Except Failure (Option Nat)
  | [] => .ok none
  | record :: rest => do
    if (← host.keyText table record) == text then .ok (some 0)
    else .ok ((← placeOf? table text rest).map (· + 1))

def indexOf? (table : Table) (key : Value) : Except Failure (Option Nat) := do
  host.placeOf? table (← host.print key) table.records

def get? (table : Table) (key : Value) : Except Failure (Option Record) := do
  .ok ((← host.indexOf? table key).bind (table.records[·]?))

def acceptable? (table : Table) : Value → Except Failure (Option Record)
  | .object record => do
    .ok (if (← Record.lookUp table.keyName record).isTruthy then some record else none)
  | _ => .ok none

def put (table : Table) (record : Record) : Except Failure (List Record × Bool) := do
  let key ← record.lookUp table.keyName
  match ← host.indexOf? table key with
  | some index => .ok (table.records.set index record, true)
  | none => .ok (table.records ++ [record], false)

/-- What is to be stored for a candidate, if it can be. That a record has no
key is logged with the name of the key field. -/
def arrival (table : Table) (given : Value) : Except Failure (Option (List Record)) := do
  match ← acceptable? table given with
  | some record => .ok (some (← host.put table record).1)
  | none =>
    match given with
    | .object _ => do
      let _ ← host.print table.keyName
      .ok none
    | _ => .ok none

def add (table : Table) (given : Value) : Table × Except Failure Bool :=
  match host.arrival table given with
  | .ok (some records) => host.reselect table records true
  | .ok none => (table, .ok false)
  | .error failure => (table, .error failure)

def departure (table : Table) (key : Value) : Except Failure (Option Nat) := do
  match key with
  | .null => .ok none
  | _ =>
    match ← host.indexOf? table key with
    | some index => .ok (some index)
    | none =>
      -- That there is none is logged with the name of the key field.
      let _ ← host.print table.keyName
      .ok none

def remove (table : Table) (key : Value) : Table × Except Failure (Option Record) :=
  match host.departure table key with
  | .ok (some index) =>
    host.reselect table (table.records.eraseIdx index) table.records[index]?
  | .ok none => (table, .ok none)
  | .error failure => (table, .error failure)

-- ---------------------------------------------------------------------------
-- Batches
-- ---------------------------------------------------------------------------

def refuse (table : Table) (given : Value) : Except Failure Unit := do
  let _ ← host.print table.keyName
  let _ ← host.quote given
  .ok ()

def tally (state : Table × BatchReport) (given : Value) : Except Failure (Table × BatchReport) := do
  let (table, report) := state
  match ← acceptable? table given with
  | none =>
    host.refuse table given
    .ok (table, { report with refused := report.refused ++ [given] })
  | some record =>
    let (records, known) ← host.put table record
    .ok (table.holding records,
      if known then { report with updated := report.updated + 1 }
      else { report with added := report.added + 1 })

/-- Stores candidates up to the first failure. -/
def tallyAll (state : Table × BatchReport) :
    List Value → Table × Except Failure BatchReport
  | [] => (state.1, .ok state.2)
  | given :: rest =>
    match host.tally state given with
    | .ok next => tallyAll next rest
    | .error failure => (state.1, .error failure)

def append (table : Table) (given : List Value) : Table × Except Failure BatchReport :=
  match host.tallyAll (table, ⟨0, 0, []⟩) given with
  | (stored, .ok report) =>
    if report.added + report.updated == 0 then (stored, .ok report)
    else host.reselect stored stored.records report
  | (stored, .error failure) => (stored, .error failure)

def sortOut (table : Table) (state : Table.Sorted) (given : Value) :
    Except Failure Table.Sorted := do
  match ← acceptable? table given with
  | none =>
    host.refuse table given
    .ok { state with refused := state.refused ++ [given] }
  | some record =>
    let text ← host.keyText table record
    if state.kept.any fun other => (host.keyText table other).toOption == some text then
      .ok { state with duplicates := state.duplicates ++ [text] }
    else .ok { state with kept := state.kept ++ [record] }

def replace (table : Table) (given : Value) : Table × Except Failure ReplaceReport :=
  match given with
  | .list candidates =>
    match candidates.foldlM (host.sortOut table) ⟨[], [], []⟩ with
    | .ok sorted => host.reselect table sorted.kept
      ⟨true, sorted.kept.length, sorted.refused, sorted.duplicates⟩
    | .error failure => (table, .error failure)
  | _ => (table, .ok ⟨false, 0, [], []⟩)

end Host

end RecordQuery
