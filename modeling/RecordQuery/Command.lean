import RecordQuery.Command.Invocation
import RecordQuery.Host
import RecordQuery.Limits.Loading

/-!
# Commands

A failure of this library is printed and ends a command with code 1;
anything else that fails is passed on. A query that fails is always a
failure here, whatever the settings say.
-/

namespace RecordQuery

namespace Command

structure Outcome where
  code : Nat
  output : List Char
  errors : List Char
  files : Files

def Outcome.printed (files : Files) (output : List Char) : Outcome := ⟨0, output, [], files⟩

def Outcome.failed (files : Files) (message : String) : Outcome :=
  ⟨1, [], ("Error: " ++ message ++ "\n").toList, files⟩

def Action.problem? (files : Files) : Action → Option String
  | .config .. => none
  | .fields source => missing? source
  | .filter source selection =>
    (missing? source).or ((unusable? "results" selection.maxResults).or
      (unusable? "width" selection.maxWidth))
where
  missing? (source : SourceChoice) : Option String :=
    if source.path == "" || files.isPresent source.path then none
    else some ("Data source not found: " ++ source.path)
  unusable? (what : String) : Option Int → Option String
    | some n => if n ≤ 0 then
        some ("Max " ++ what ++ " must be positive, got " ++ String.ofList (Text.intText n))
      else none
    | none => none

def SourceChoice.applyTo (source : SourceChoice) (settings : Settings) : Settings :=
  let keyed :=
    match source.keyField with
    | none | some "" => settings
    | some field => settings.setEngine "primary_key_field" (.text field)
  match source.listFields with
  | [] => keyed
  | fields =>
    let known := (keyed.providerSetting "csv" "list_fields" (.list [])).elements
    keyed.setProvider "csv" "list_fields" (.list (known ++ fields.map Value.text))

def limitFrom (given : Option Int) (setting : Value) : Value :=
  match given with
  | some n => .int n
  | none => setting.asNumber

/-- The first records; a negative limit leaves so many out at the end, and
zero or null is none. -/
def limited (limit : Value) (records : List Record) : List Record :=
  match limit with
  | .int n =>
    if n == 0 then records
    else if n < 0 then records.take (records.length - n.natAbs)
    else records.take n.natAbs
  | _ => records

def keyLines (keyField : Option String) (records : List Record) : List Char :=
  Report.lines (records.map fun record => Json.write false (record.key keyField))

section
variable (limits : Limits) (files : Files)

def loadTable (source : SourceChoice) (settings : Settings) : Except Failure Table := do
  let settings := source.applyTo settings
  let (_, collection) ← limits.loadWith files source.path source.provider settings
  .ok (.new collection.records .null settings)

def render (columns : Int) (table : Table) (selection : Selection) (records : List Record) :
    Except Failure (List Char) :=
  let settings := table.settings
  let format : Value := match selection.format with
    | some format => Value.text format
    | none => settings.outputSetting "output_format" (.text "console")
  match format with
  | .text "ids" => .ok (keyLines table.keyField records)
  | .text "json" => .ok (Report.lines [Report.json true (records.map Value.object)])
  | .text "csv" =>
    let delimiter := settings.providerSetting "csv" "list_delimiter" (.text "|")
    limits.csv table.keyField (delimiter.fieldName?.getD "") records
  | _ =>
    let width := match limitFrom selection.maxWidth (settings.outputSetting "max_width" .null) with
      | .int n => n
      | _ => Report.widthFor columns
    .ok (Report.console width (table.keyField.getD "") records)

/-- Selects and prints. The keys of what is selected are looked up for a
summary first, which is only logged. -/
def runFilter (columns : Int) (settings : Settings) (source : SourceChoice)
    (selection : Selection) : Except Failure (List Char) := do
  let table ← loadTable limits files source (settings.setEngine "fallback_on_error" (.bool false))
  let (table, selected) := limits.host.apply table (some selection.query)
  let records ← selected
  let _ ← records.mapM (Record.lookUp table.keyName)
  match selection.countBy with
  | none | some "" =>
    let limit := limitFrom selection.maxResults (table.settings.outputSetting "max_results" .null)
    render limits columns table selection (limited limit records)
  | some field =>
    .ok (Report.lines [Json.write true (Report.countsValue (Report.countBy field records))])

def runFields (settings : Settings) (source : SourceChoice) : Except Failure (List Char) := do
  let table ← loadTable limits files source settings
  let infos ← limits.describe table.records none []
  .ok (Report.lines [Json.write true (FieldInfo.table infos)])

def runConfig (settings : Settings) (shows : Bool) (create : Option String) : Outcome :=
  let shown := Report.lines [settings.text]
  match create with
  | none | some "" => .printed files shown
  | some path =>
    match Settings.default.save? files path with
    | none => ⟨1, [], [], files⟩
    | some saved =>
      let note := Report.lines [("Created default configuration at " ++ path).toList]
      .printed saved (if shows then note ++ shown else note)

def runAction (columns : Int) (settings : Settings) : Action → Except Failure Outcome
  | .filter source selection => do
    .ok (.printed files (← runFilter limits files columns settings source selection))
  | .fields source => do .ok (.printed files (← runFields limits files settings source))
  | .config shows create => .ok (runConfig files settings shows create)

/-- Prints a failure of this library, and passes any other on. -/
def reported : Except Failure Outcome → Except Failure Outcome
  | .ok outcome => .ok outcome
  | .error failure =>
    if failure.isReported then .ok (.failed files failure.message) else .error failure

def runWithin (columns : Int) (invocation : Invocation) : Except Failure Outcome :=
  match invocation.action with
  | none => .ok ⟨1, "usage:".toList, [], files⟩
  | some action =>
    match action.problem? files with
    | some message => .ok (.failed files message)
    | none => reported files do
      runAction limits files columns (← limits.loadSettings files invocation.settingsPath) action

end

def run (files : Files) (columns : Int) (invocation : Invocation) : Except Failure Outcome :=
  runWithin .standard files columns invocation

end Command

end RecordQuery
