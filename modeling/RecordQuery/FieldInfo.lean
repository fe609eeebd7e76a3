import RecordQuery.Value.Printing

/-!
# Descriptions of fields

What an editor needs to know about the fields of a collection: the type of
each, and the distinct values of those that hold texts or lists. Example
queries are made from the descriptions.
-/

namespace RecordQuery

structure FieldInfo where
  type : Value
  values : Option (List Value)

namespace Value

def typeName : Value → String
  | bool _ => "boolean"
  | int _ | float _ => "number"
  | list _ => "array"
  | _ => "string"

def sameForm (a b : Value) : Bool := a.kind == b.kind && a.quoted == b.quoted

end Value

namespace FieldInfo

/-- Stands for the values that are missing. -/
def nullMark : String := "NULL"

def isListed (type : Value) : Bool :=
  match type with
  | .text name => name == "string" || name == "array"
  | _ => false

/-- Distinct values of a field in the order of first appearance, a list
counting by its items; missing ones are told at the end. -/
def collect (records : List Record) (field : String) : List Value :=
  let items := records.flatMap fun record => (record.get field).flattened
  let defined := (items.filter fun item => !item.isNullish).eraseDupsBy Value.sameForm
  if items.any Value.isNullish then defined ++ [.text nullMark] else defined

/-- A type that is given and is not empty counts before the type of the
first record's value. -/
def ofField (records : List Record) (sample : Record) (types : Record) (field : String) :
    FieldInfo :=
  let given := types.get field
  let type := if given.isTruthy then given else .text (sample.get field).typeName
  ⟨type, if isListed type then some (collect records field) else none⟩

def describe (records : List Record) (fields : Option (List String)) (types : Record) :
    List (String × FieldInfo) :=
  match records with
  | [] => (fields.getD []).eraseDups.map fun field =>
    (field, ⟨(types.find? field).getD (.text "string"), some []⟩)
  | sample :: _ => (fields.getD sample.fields).eraseDups.map fun field =>
    (field, ofField records sample types field)

def ofRecord (info : Record) : FieldInfo :=
  let values := info.get "values"
  ⟨info.get "type", if values.isTruthy then some values.elements else none⟩

def toValue (info : FieldInfo) : Value :=
  .object [("type", info.type), ("values", (info.values.map Value.list).getD .null)]

def table (infos : List (String × FieldInfo)) : Value :=
  .object (infos.map fun info => (info.1, info.2.toValue))

def sample (info : FieldInfo) : Value :=
  let isMark := fun value : Value => match value with
    | .text s => s == nullMark
    | _ => false
  match (info.values.getD []).find? fun value => !isMark value with
  | none | some .null => .text "text"
  | some value => value

def example? (field : String) (info : FieldInfo) : Option String :=
  match info.type with
  | .text "number" => some (field ++ " > 100")
  | .text "boolean" => some (field ++ " = true")
  | .text "string" | .text "array" => some (field ++ " = \"" ++ info.sample.shown ++ "\"")
  | _ => none

def placeholder (infos : List (String × FieldInfo)) : String :=
  let hint := fun text => "Filter data... (e.g., " ++ text ++ ")"
  match infos with
  | [] => hint "column > value"
  | _ =>
    match (infos.take 2).filterMap fun info => example? info.1 info.2 with
    | [] => hint "column = value"
    | examples => hint (" AND ".intercalate examples)

end FieldInfo

end RecordQuery
