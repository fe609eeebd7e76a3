import RecordQuery.Condition
import RecordQuery.Proofs.Attempt

/-!
# Conditions that fail

A condition fails on an integer that no float is near to and on nothing else,
wherever in its comparison the integer is converted.
-/

namespace RecordQuery

open Attempt (bind_error map_error)

variable {failure : Failure}

namespace Value

theorem floatOfInt_eq (n : Int) : floatOfInt n =
    (Double.ofInt? n).elim (.error .integerOutOfRange) .ok := by
  -- As functions, since a match on the nearest number would be evaluated.
  have hf : floatOfInt = fun n : Int =>
      (Double.ofInt? n).elim (.error .integerOutOfRange) .ok := by
    delta floatOfInt
    funext n
    generalize Double.ofInt? n = found
    cases found <;> rfl
  exact congrFun hf n

theorem elim_error {α : Type} {found : Option Double} {next : Double → α}
    (h : found.elim (.error .integerOutOfRange) (fun x => .ok (next x)) = Except.error failure) :
    failure = .integerOutOfRange := by
  cases found with
  | none => exact (Except.error.inj h).symm
  | some x => cases h

theorem floatOfInt_error {n : Int} (h : floatOfInt n = .error failure) :
    failure = .integerOutOfRange := by
  rw [floatOfInt_eq] at h
  exact elim_error h

theorem integerText_error {n : Int} (h : integerText n = .error failure) :
    failure = .integerOutOfRange := by
  unfold integerText at h
  exact elim_error h

mutual
theorem searchText_error (value : Value) (h : value.searchText = .error failure) :
    failure = .integerOutOfRange := by
  cases value with
  | int n =>
    rw [searchText] at h
    exact integerText_error h
  | list items =>
    rw [searchText, bind_error] at h
    rcases h with h | ⟨_, -, h⟩
    · exact searchTexts_error items h
    · cases h
  | _ => simp [searchText] at h
theorem searchTexts_error (items : List Value) (h : searchTexts items = .error failure) :
    failure = .integerOutOfRange := by
  cases items with
  | nil => simp [searchTexts] at h
  | cons item rest =>
    rw [searchTexts, bind_error] at h
    rcases h with h | ⟨_, -, h⟩
    · exact searchText_error item h
    · rcases bind_error.mp h with h | ⟨_, -, h⟩
      · exact searchTexts_error rest h
      · cases h
end

theorem toNumber_error {value : Value} (h : value.toNumber = .error failure) :
    failure = .integerOutOfRange := by
  unfold toNumber at h
  split at h
  case h_2 | h_3 => exact floatOfInt_error h
  all_goals cases h

theorem parseFloat_error {value : Value} (h : value.parseFloat = .error failure) :
    failure = .integerOutOfRange := by
  unfold parseFloat at h
  split at h
  · cases h
  · cases h
  · exact floatOfInt_error h
  · cases h
  · rcases bind_error.mp h with h | ⟨_, -, h⟩
    · exact searchText_error _ h
    · cases h

theorem looseEquals_error {left right : Value} (h : left.looseEquals right = .error failure) :
    failure = .integerOutOfRange := by
  have hn : ∀ {value : Value} {verdict : Double → Bool},
      (do .ok (verdict (← value.toNumber)) : Except Failure Bool) = .error failure →
        failure = .integerOutOfRange := fun h => by
    rcases bind_error.mp h with h | ⟨_, -, h⟩
    · exact toNumber_error h
    · cases h
  unfold looseEquals at h
  split at h
  case h_5 | h_6 =>
    split at h
    · exact hn h
    · cases h
  all_goals cases h

end Value

namespace Condition

theorem equals_error {field value : Value} (h : equals field value = .error failure) :
    failure = .integerOutOfRange := by
  unfold equals at h
  split at h
  · cases h
  · split at h
    · cases h
    · split at h
      · cases h
      · exact Value.looseEquals_error h

theorem ordered_error {compare : Double → Double → Bool} {field value : Value}
    (h : ordered compare field value = .error failure) : failure = .integerOutOfRange := by
  unfold ordered at h
  split at h
  · cases h
  · rcases bind_error.mp h with h | ⟨_, -, h⟩
    · exact Value.toNumber_error h
    · rcases bind_error.mp h with h | ⟨_, -, h⟩
      · exact Value.parseFloat_error h
      · cases h

theorem holds_error {condition : Condition} {record : Record}
    (h : condition.holds record = .error failure) : failure = .integerOutOfRange := by
  unfold holds at h
  dsimp only at h
  split at h
  · exact equals_error h
  · rw [differs_eq, map_error] at h
    exact equals_error h
  · exact ordered_error h
  · exact ordered_error h
  · cases h
  · cases h

end Condition

end RecordQuery
