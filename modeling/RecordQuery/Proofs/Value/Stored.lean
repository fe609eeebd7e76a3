import RecordQuery.Numeral
import RecordQuery.Proofs.Record

/-!
# Flat values, and values that JSON keeps

Queries understand scalars and lists of scalars; such values are flat.

JSON gives back what is written to it as long as every integer has no more
digits than are read and every object names each of its fields once. Floats
are left out: nothing is said here of how their digits are read.
-/

namespace RecordQuery

namespace Value

def isScalar : Value → Bool
  | list _ | object _ => false
  | _ => true

def isFlat : Value → Bool
  | list items => items.all isScalar
  | value => value.isScalar

theorem isFlat_cases {value : Value} (h : value.isFlat = true) :
    value.isScalar = true ∨ ∃ items, value = list items ∧ items.all isScalar = true := by
  cases value with
  | list items => exact .inr ⟨items, rfl, h⟩
  | object fields => cases h
  | _ => exact .inl rfl

theorem flattened_scalar {value : Value} (h : value.isScalar = true) :
    value.flattened = [value] := by
  cases value with
  | list items => cases h
  | object fields => cases h
  | _ => rfl

end Value

def Record.isFlat (record : Record) : Bool := record.all fun field => field.2.isFlat

def isDistinct : List String → Bool
  | [] => true
  | name :: rest => !rest.contains name && isDistinct rest

theorem isDistinct_iff {names : List String} : isDistinct names = true ↔ names.Nodup := by
  induction names with
  | nil => simp [isDistinct]
  | cons name rest ih => simp [isDistinct, ih]

namespace Value

variable {p q : Value → Bool} {items : List Value} {fields : Record}

mutual
def every (test : Value → Bool) : Value → Bool
  | list items => test (list items) && everyItem test items
  | object fields => test (object fields) && everyField test fields
  | value => test value
def everyItem (test : Value → Bool) : List Value → Bool
  | [] => true
  | item :: rest => item.every test && everyItem test rest
def everyField (test : Value → Bool) : List (String × Value) → Bool
  | [] => true
  | (_, value) :: rest => value.every test && everyField test rest
end

theorem everyItem_iff : everyItem p items = true ↔ ∀ item ∈ items, item.every p = true := by
  induction items with
  | nil => simp [everyItem]
  | cons item rest ih => simp [everyItem, ih]

theorem everyField_iff : everyField p fields = true ↔ ∀ field ∈ fields, field.2.every p = true := by
  induction fields with
  | nil => simp [everyField]
  | cons field rest ih => simp [everyField, ih]

theorem every_list : (list items).every p = true ↔
    p (list items) = true ∧ ∀ item ∈ items, item.every p = true := by
  rw [every, Bool.and_eq_true, everyItem_iff]

theorem every_object : (object fields).every p = true ↔
    p (object fields) = true ∧ ∀ field ∈ fields, field.2.every p = true := by
  rw [every, Bool.and_eq_true, everyField_iff]

mutual
theorem every_and (value : Value) :
    value.every (fun v => p v && q v) = (value.every p && value.every q) := by
  cases value with
  | list items =>
    simp only [every, everyItem_and items, Bool.and_assoc, Bool.and_left_comm (q (list items))]
  | object fields =>
    simp only [every, everyField_and fields, Bool.and_assoc, Bool.and_left_comm (q (object fields))]
  | _ => simp only [every]
theorem everyItem_and (items : List Value) :
    everyItem (fun v => p v && q v) items = (everyItem p items && everyItem q items) := by
  cases items with
  | nil => rfl
  | cons item rest =>
    simp only [everyItem, every_and item, everyItem_and rest, Bool.and_assoc,
      Bool.and_left_comm (item.every q)]
theorem everyField_and (fields : Record) :
    everyField (fun v => p v && q v) fields = (everyField p fields && everyField q fields) := by
  cases fields with
  | nil => rfl
  | cons field rest =>
    simp only [everyField, every_and field.2, everyField_and rest, Bool.and_assoc,
      Bool.and_left_comm (field.2.every q)]
end

-- ---------------------------------------------------------------------------
-- What JSON keeps
-- ---------------------------------------------------------------------------

def isFloat : Value → Bool
  | float _ => true
  | _ => false

/-- An integer short enough to be read, or an object that names each of its
fields once. -/
def isWellFormed : Value → Bool
  | int n => (Text.natText n.natAbs).length ≤ Numeral.maxDigits
  | object fields => isDistinct (Record.fields fields)
  | _ => true

def isReadable (value : Value) : Bool := value.every isWellFormed

def isFloatFree (value : Value) : Bool := value.every fun v => !v.isFloat

def isStorable (value : Value) : Bool := value.every fun v => v.isWellFormed && !v.isFloat

theorem isStorable_iff {value : Value} :
    value.isStorable = true ↔ value.isReadable = true ∧ value.isFloatFree = true := by
  rw [isStorable, every_and, Bool.and_eq_true]
  rfl

theorem isReadable_list :
    (list items).isReadable = true ↔ ∀ item ∈ items, item.isReadable = true := by
  simp [isReadable, every_list, isWellFormed]

theorem isReadable_object : (object fields).isReadable = true ↔
    fields.fields.Nodup ∧ ∀ field ∈ fields, field.2.isReadable = true := by
  simp [isReadable, every_object, isWellFormed, isDistinct_iff]

theorem isStorable_list :
    (list items).isStorable = true ↔ ∀ item ∈ items, item.isStorable = true := by
  simp [isStorable, every_list, isWellFormed, isFloat]

theorem isStorable_object : (object fields).isStorable = true ↔
    fields.fields.Nodup ∧ ∀ field ∈ fields, field.2.isStorable = true := by
  simp [isStorable, every_object, isWellFormed, isFloat, isDistinct_iff]

theorem isStorable_fields {value : Value} (h : value.isStorable = true) :
    value.fields.fields.Nodup ∧ ∀ field ∈ value.fields, field.2.isStorable = true := by
  cases value with
  | object fields => exact isStorable_object.mp h
  | _ => exact ⟨List.nodup_nil, fun _ hm => absurd hm List.not_mem_nil⟩

end Value

end RecordQuery
