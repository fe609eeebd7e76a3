import RecordQuery.Double

/-!
# Values and records

Field values come from loosely typed sources: scalars, lists of them, and
objects whose fields keep their order. A record is a list of named fields;
a name that is missing reads as null.
-/

namespace RecordQuery

inductive Value where
  | null
  | bool (b : Bool)
  | int (n : Int)
  | float (x : Double)
  | text (s : String)
  | list (items : List Value)
  | object (fields : List (String × Value))
deriving Inhabited

/-- The types that strict comparison keeps apart. -/
inductive Kind where
  | null | bool | int | float | text | list | object
deriving DecidableEq

def Kind.name : Kind → String
  | null => "NoneType"
  | bool => "bool"
  | int => "int"
  | float => "float"
  | text => "str"
  | list => "list"
  | object => "dict"

namespace Value

def kind : Value → Kind
  | null => .null
  | bool _ => .bool
  | int _ => .int
  | float _ => .float
  | text _ => .text
  | list _ => .list
  | object _ => .object

/-- No value: null or the empty text. -/
def isNullish : Value → Bool
  | null => true
  | text s => s.isEmpty
  | _ => false

/-- Integers and floats; booleans are no numbers here. -/
def isNumber : Value → Bool
  | int _ | float _ => true
  | _ => false

def isList : Value → Bool
  | list _ => true
  | _ => false

def isTruthy : Value → Bool
  | null => false
  | bool b => b
  | int n => n != 0
  | float (.finite _ units) => units != 0
  | float _ => true
  | text s => !s.isEmpty
  | list items => !items.isEmpty
  | object fields => !fields.isEmpty

/-- The parts a value is walked through by: items, characters or names. -/
def elements : Value → List Value
  | list items => items
  | text s => s.toList.map fun c => .text (String.singleton c)
  | object fields => fields.map fun field => .text field.1
  | _ => []

def fieldName? : Value → Option String
  | text name => some name
  | _ => none

def flattened : Value → List Value
  | list items => items
  | value => [value]

end Value

abbrev Record := List (String × Value)

def Value.fields : Value → Record
  | .object fields => fields
  | _ => []

namespace Record

def find? (record : Record) (field : String) : Option Value := record.lookup field

def get (record : Record) (field : String) : Value := (record.find? field).getD .null

def key (keyField : Option String) (record : Record) : Value :=
  match keyField with
  | some field => record.get field
  | none => .null

/-- Replaces a field in its place, or adds it at the end. -/
def set (field : String) (value : Value) : Record → Record
  | [] => [(field, value)]
  | (name, old) :: rest =>
    if name == field then (name, value) :: rest else (name, old) :: set field value rest

/-- Adds fields one by one: the last value of a name wins, in the place of
the first. -/
def update (record : Record) (fields : List (String × Value)) : Record :=
  fields.foldl (fun record field => record.set field.1 field.2) record

def ofFields (fields : List (String × Value)) : Record := update [] fields

def fields (record : Record) : List String := record.map Prod.fst

theorem find?_set (record : Record) (field name : String) (value : Value) :
    (record.set field value).find? name =
      if name = field then some value else record.find? name := by
  induction record with
  | nil =>
    by_cases h : name = field
    · simp [set, find?, h]
    · simp [set, find?, List.lookup_cons, h, beq_false_of_ne h]
  | cons head rest ih =>
    obtain ⟨key, old⟩ := head
    simp only [find?] at ih ⊢
    by_cases hk : key = field
    · subst hk
      by_cases h : name = key
      · simp [set, h]
      · simp [set, List.lookup_cons, h, beq_false_of_ne h]
    · by_cases h : name = key
      · subst h
        simp [set, hk]
      · simp [set, List.lookup_cons, hk, beq_false_of_ne h, ih]

end Record

end RecordQuery
