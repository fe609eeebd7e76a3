import RecordQuery.Value

/-!
# Equality of values

Numbers are equal if they lie at the same place, booleans counting as one
and zero; what is not a number equals nothing. Lists are equal item by item,
objects field by field in any order.
-/

namespace RecordQuery.Value

def place? : Value → Option (Int × Int)
  | bool b => some (Double.placeOfInt (if b then 1 else 0))
  | int n => some (Double.placeOfInt n)
  | float x => x.place?
  | _ => none

def samePlace (a b : Value) : Bool :=
  match a.place?, b.place? with
  | some p, some q => p == q
  | _, _ => false

mutual
def same : Value → Value → Bool
  | null, null => true
  | text a, text b => a == b
  | list a, list b => sameItems a b
  | object a, object b => a.length == b.length && sameFields a b
  | a, b => samePlace a b
def sameItems : List Value → List Value → Bool
  | [], [] => true
  | a :: as, b :: bs => a.same b && sameItems as bs
  | _, _ => false
def sameFields : List (String × Value) → List (String × Value) → Bool
  | [], _ => true
  | (name, a) :: rest, others =>
    (match others.lookup name with
      | some b => a.same b
      | none => false) && sameFields rest others
end

/-- Equality without coercion: booleans are no numbers, numbers are no
texts, and what is not a number equals itself. -/
def strictEquals : Value → Value → Bool
  | bool a, bool b => a == b
  | bool _, _ | _, bool _ => false
  | a, b =>
    if a.isNumber && b.isNumber then
      match a, b with
      | float .nan, float .nan => true
      | _, _ => samePlace a b
    else a.kind == b.kind && a.same b

def containsStrict (values : List Value) (item : Value) : Bool :=
  values.any fun value => strictEquals value item

end RecordQuery.Value
