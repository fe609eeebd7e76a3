import RecordQuery.Engine
import RecordQuery.Proofs.Attempt

/-!
# Convertible integers

A value can be searched in if no integer in it lies beyond the floats. The
reading goes to any depth, although an object is searched by its quoted form
and would do without.
-/

namespace RecordQuery

namespace Value

def isInRange (n : Int) : Bool := (Double.ofInt? n).isSome

theorem exists_integerText (h : isInRange n = true) : ∃ text, integerText n = .ok text := by
  obtain ⟨x, hx⟩ := Option.isSome_iff_exists.mp h
  exact ⟨Text.intText n, by rw [integerText, hx, Option.elim_some]⟩

mutual
/-- Every integer in a value, at any depth, has a float near to it. -/
def isConvertible : Value → Bool
  | int n => isInRange n
  | list items => areConvertible items
  | object fields => fieldsConvertible fields
  | _ => true
def areConvertible : List Value → Bool
  | [] => true
  | item :: rest => item.isConvertible && areConvertible rest
def fieldsConvertible : List (String × Value) → Bool
  | [] => true
  | (_, value) :: rest => value.isConvertible && fieldsConvertible rest
end

theorem isConvertible_of_mem {fields : List (String × Value)} (h : fieldsConvertible fields = true)
    {field : String × Value} (hm : field ∈ fields) : field.2.isConvertible = true := by
  induction fields with
  | nil => cases hm
  | cons first rest ih =>
    obtain ⟨hf, hr⟩ := Bool.and_eq_true_iff.mp h
    rcases List.mem_cons.mp hm with rfl | hm
    · exact hf
    · exact ih hr hm

mutual
theorem exists_searchText (value : Value) (h : value.isConvertible = true) :
    ∃ text, value.searchText = .ok text := by
  cases value with
  | null => exact ⟨[], by rw [searchText]⟩
  | bool b => exact ⟨_, by rw [searchText]⟩
  | int n =>
    rw [isConvertible] at h
    rw [searchText]
    exact exists_integerText h
  | float x => exact ⟨_, by rw [searchText]⟩
  | text s => exact ⟨_, by rw [searchText]⟩
  | list items =>
    rw [isConvertible] at h
    obtain ⟨texts, ht⟩ := exists_searchTexts items h
    exact ⟨[','].intercalate texts, by rw [searchText, ht]; rfl⟩
  | object fields => exact ⟨_, by rw [searchText]⟩
theorem exists_searchTexts (items : List Value) (h : areConvertible items = true) :
    ∃ texts, searchTexts items = .ok texts := by
  cases items with
  | nil => exact ⟨[], by rw [searchTexts]⟩
  | cons item rest =>
    rw [areConvertible, Bool.and_eq_true] at h
    obtain ⟨hi, hr⟩ := h
    obtain ⟨first, hf⟩ := exists_searchText item hi
    obtain ⟨others, ho⟩ := exists_searchTexts rest hr
    exact ⟨first :: others, by rw [searchTexts, hf, ho]; rfl⟩
end

end Value

namespace Record

def isConvertible (record : Record) : Bool := Value.fieldsConvertible record

theorem exists_matchesTerms {record : Record} (h : record.isConvertible = true)
    (terms : List (List Char)) : ∃ verdict, record.matchesTerms terms = .ok verdict := by
  have hf : ∀ field ∈ record, ∃ text, field.2.searchText = .ok text := fun field hm =>
    field.2.exists_searchText (Value.isConvertible_of_mem h hm)
  obtain ⟨texts, ht⟩ := Attempt.exists_mapM hf
  have hs : record.searchText = .ok ([' '].intercalate (texts.map Text.lower)) := by
    rw [searchText, ht]
    rfl
  exact ⟨_, by rw [matchesTerms, hs]; rfl⟩

end Record

end RecordQuery
