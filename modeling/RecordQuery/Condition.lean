import RecordQuery.Value.Coercion

/-!
# Conditions

A condition tests one field of a record. An unknown operator is kept by its
name and never matches.
-/

namespace RecordQuery

inductive Operator where
  | equal | unequal | greater | less | among
  | other (name : String)
deriving DecidableEq

namespace Operator

def ofName : String → Operator
  | "=" => equal
  | "!=" => unequal
  | ">" => greater
  | "<" => less
  | "IN" => among
  | name => other name

def name : Operator → String
  | equal => "="
  | unequal => "!="
  | greater => ">"
  | less => "<"
  | among => "IN"
  | other name => name

theorem name_ofName (s : String) : (ofName s).name = s := by
  unfold ofName
  split <;> rfl

end Operator

structure Condition where
  field : String
  operator : Operator
  value : Value

namespace Condition

/-- Null asks for no value; a list asks for one of its items. -/
def equals (field value : Value) : Except Failure Bool :=
  match value with
  | .null => .ok field.isNullish
  | _ =>
    if field.isNullish then .ok false
    else match field with
      | .list items => .ok (Value.containsStrict items value)
      | _ => field.looseEquals value

def differs (field value : Value) : Except Failure Bool :=
  match value with
  | .null => .ok (!field.isNullish)
  | _ =>
    if field.isNullish then .ok true
    else match field with
      | .list items => .ok (!Value.containsStrict items value)
      | _ => do .ok (!(← field.looseEquals value))

theorem differs_eq (field value : Value) : differs field value = (equals field value).map (!·) := by
  unfold differs equals
  split
  · rfl
  · split
    · rfl
    · split
      · rfl
      · cases field.looseEquals value <;> rfl

/-- Neither nothing nor a list has an order. -/
def ordered (compare : Double → Double → Bool) (field value : Value) : Except Failure Bool :=
  if field.isNullish || field.isList then .ok false
  else do
    let x ← field.toNumber
    let y ← value.parseFloat
    .ok (compare x y)

/-- Membership. A null in the list asks for no value, and then a list-valued
field is looked up whole instead of by its items. -/
def isAmong (field value : Value) : Bool :=
  let values := value.flattened
  if values.any fun item => item.kind == .null then
    field.isNullish || Value.containsStrict values field
  else if field.isNullish then false
  else match field with
    | .list items => items.any (Value.containsStrict values)
    | _ => Value.containsStrict values field

def holds (condition : Condition) (record : Record) : Except Failure Bool :=
  let field := record.get condition.field
  match condition.operator with
  | .equal => equals field condition.value
  | .unequal => differs field condition.value
  | .greater => ordered (fun x y => y.less x) field condition.value
  | .less => ordered Double.less field condition.value
  | .among => .ok (isAmong field condition.value)
  | .other _ => .ok false

end Condition

end RecordQuery
