import RecordQuery.Csv.Reading
import RecordQuery.Failure
import RecordQuery.Files
import RecordQuery.Json.Reading
import RecordQuery.Json.Writing
import RecordQuery.Settings
import RecordQuery.Text.Blank
import RecordQuery.Text.Case
import RecordQuery.Text.Encoding
import RecordQuery.Text.Search

/-!
# Sources of records

Records are loaded from files of separated fields, where some columns may
hold lists in a cell, and from JSON files, where the records may lie at a
path inside the document and nested values are kept as JSON text. A file
that cannot be loaded gives no collection; the encoding has to be known.
-/

namespace RecordQuery

inductive SourceKind where
  | csv | json
deriving DecidableEq

namespace SourceKind

def name : SourceKind → String
  | csv => "csv"
  | json => "json"

def ofName? : String → Option SourceKind
  | "csv" => some csv
  | "json" => some json
  | _ => none

def ofExtension? (ending : String) : Option SourceKind :=
  match String.ofList (Text.lower ending.toList) with
  | ".csv" => some csv
  | ".json" => some json
  | _ => none

end SourceKind

structure Collection where
  fields : List String
  records : List Record

namespace Collection

def find? (collection : Collection) (keyField : Option String) (key : Value) : Option Record :=
  collection.records.find? fun record => (record.key keyField).shown == key.shown

end Collection

namespace Source

/-! ### Separated fields -/

/-- The delimiter of fields: a comma if none is given, and null leaves it
to guessing. -/
def delimiter? (options : Record) : Option Csv.Delimiter :=
  match (options.find? "delimiter").getD (.text ",") with
  | .text s => Csv.Delimiter.ofText? s.toList
  | .null => some .guessed
  | _ => none

/-- Pieces of a text at a delimiter; without one, its words. -/
def splitAt (delimiter : Value) (text : List Char) : Except Failure (List (List Char)) :=
  match delimiter with
  | .text "" => .error .emptySeparator
  | .text separator => .ok (Text.cut separator.toList text)
  | _ => .ok (Text.words text)

/-- The list that a cell holds: its trimmed pieces that are not blank. -/
def listOf (delimiter : Value) (cell : Value) : Except Failure Value :=
  if cell.isNullish then .ok (.list [])
  else do
    let pieces ← splitAt delimiter cell.shownText
    .ok (.list (((pieces.map Text.trim).filter (!·.isEmpty)).map Csv.textOf))

def splitLists (listFields : List String) (delimiter : Value) :
    Record → Except Failure Record
  | [] => .ok []
  | (field, cell) :: rest => do
    let value ← if listFields.contains field then listOf delimiter cell else .ok cell
    .ok ((field, value) :: (← splitLists listFields delimiter rest))

def readCsv (options : Record) (delimiter : Csv.Delimiter) (content : Csv.Content) :
    Except Failure (Option Collection) := do
  match ← Csv.columns? delimiter content with
  | none => .ok none
  | some columns =>
    let listFields := (options.get "list_fields").elements.filterMap Value.fieldName?
    let delimiter := (options.find? "list_delimiter").getD (.text "|")
    let records ← (Csv.records columns).mapM (splitLists listFields delimiter)
    .ok (some ⟨columns.map Prod.fst, records⟩)

/-! ### JSON -/

def flatItem : Value → Value
  | .object fields => .text (Json.line (.object fields))
  | .list items => .text (Json.line (.list items))
  | value => value

def flatValue : Value → Value
  | .object fields => .text (Json.line (.object fields))
  | .list items => .list (items.map flatItem)
  | value => value

def flatRecord (record : Record) : Record := record.map fun field => (field.1, flatValue field.2)

def valueAt (value : Value) : List String → Value
  | [] => value
  | part :: rest => valueAt (value.fields.get part) rest

/-- Names between points; no path, or an empty one, leads nowhere. -/
def pathOf (options : Record) : List String :=
  match options.get "records_path" with
  | .text "" => []
  | .text path => path.splitOn "."
  | _ => []

/-- The values that may be records. A single object counts as one. -/
def candidates? : Value → Option (List Value)
  | .list items => some items
  | .object fields => some [.object fields]
  | _ => none

def recordOf? : Value → Option Record
  | .object fields => some (flatRecord fields)
  | _ => none

def ofDocument? (path : List String) (document : Value) : Option Collection := do
  let records := (← candidates? (valueAt document path)).filterMap recordOf?
  some ⟨(records.flatMap Record.fields).eraseDups, records⟩

def readJson (options : Record) (text : List Char) : Option Collection := do
  ofDocument? (pathOf options) (← Json.read? text)

/-! ### Files -/

/-- The name of the encoding that is asked for. Null asks for none, and so
does an empty name for separated fields; for JSON, the name of the local
encoding is none either. -/
def encodingName? (kind : SourceKind) (options : Record) : Option String :=
  match kind, options.get "encoding" with
  | .csv, .text "" => none
  | .json, .text "locale" => none
  | _, .text name => some name
  | _, _ => none

def encodingOf : Option String → Except Failure Encoding
  | none => .ok .utf8
  | some name =>
    match Encoding.ofName name with
    | .text encoding => .ok encoding
    | .other => .error (.notTextEncoding name)
    | .unknown => .error (.unknownEncoding name)

/-- Whether the contents are left in UTF-8, which is so if that very name is
asked for or no option is given. -/
def isLeftEncoded (options : Record) : Bool :=
  match options.find? "encoding" with
  | none | some (.text "utf-8") => true
  | _ => false

def csvContent? (options : Record) (encoding : Encoding) (contents : ByteArray) :
    Option Csv.Content :=
  if isLeftEncoded options then some (.utf8 contents)
  else (encoding.decode? contents).map .text

/-- Loads separated fields. That the name of the encoding is known counts
even where there is no file to be read. -/
def loadCsv (options : Record) : Node → Except Failure (Option Collection)
  | .folder =>
    match encodingOf (encodingName? .csv options) with
    | .error (.unknownEncoding name) => .error (.unknownEncoding name)
    | _ => .ok none
  | .file contents => do
    let encoding ← encodingOf (encodingName? .csv options)
    match delimiter? options, csvContent? options encoding contents with
    | some delimiter, some content => readCsv options delimiter content
    | _, _ => .ok none

def loadJson (options : Record) : Node → Except Failure (Option Collection)
  | .folder => .ok none
  | .file contents => do
    let encoding ← encodingOf (encodingName? .json options)
    .ok ((encoding.decode? contents).bind (readJson options))

/-- Options that no source can be loaded with, wherever it is: a line feed
as the delimiter, or a name of an encoding with NUL in it. -/
def isRefused (kind : SourceKind) (options : Record) : Bool :=
  match kind, options.find? "delimiter" with
  | .csv, some (.text "\n") => true
  | _, _ => (encodingName? kind options).any fun name => name.toList.contains '\x00'

def load (files : Files) (kind : SourceKind) (path : String) (options : Record) :
    Except Failure (Option Collection) :=
  match files.find? path with
  | none => .ok none
  | some node =>
    if isRefused kind options then .ok none
    else match kind with
      | .csv => loadCsv options node
      | .json => loadJson options node

def validate (files : Files) (path : String) : Except SourceProblem SourceKind :=
  if !files.isPresent path then .error (.missing path)
  else match SourceKind.ofExtension? (Path.extension path) with
    | some kind => .ok kind
    | none => .error (.unsupported path (Path.extension path))

def kindOf (files : Files) (path : String) : Option String → Except SourceProblem SourceKind
  | none => validate files path
  | some name =>
    match SourceKind.ofName? name with
    | some kind => .ok kind
    | none => .error (.unknownType name)

def loadWith (files : Files) (path : String) (kindName : Option String) (settings : Settings) :
    Except Failure (SourceKind × Collection) :=
  match kindOf files path kindName with
  | .error problem => .error (.source problem)
  | .ok kind => do
    match ← load files kind path (settings.providers.get kind.name).fields with
    | some collection => .ok (kind, collection)
    | none => .error (.source (.unloadable path kind.name))

end Source

end RecordQuery
