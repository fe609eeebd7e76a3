import RecordQuery.Engine
import RecordQuery.Proofs.Attempt

/-!
# Outcomes within limits

An operation that may meet limits is compared with one that meets none. Both
have the same outcome, or the first one meets a limit and fails with what only
a limit is the cause of. Whether a limit can be met at all is a parameter: where
it cannot, both are the same; where it can, they are the same up to the first
such failure.
-/

namespace RecordQuery

/-- Failures that there are only within limits. -/
def Failure.isLimit : Failure → Bool
  | .unprintable | .stackEnded _ | .unhashable _ | .notOrdered _ => true
  | _ => false

/-- The outcome without limits, or, where one can be met, a failure at a limit. -/
def Near {α : Type} (met : Prop) (outcome ideal : Except Failure α) : Prop :=
  outcome = ideal ∨ met ∧ ∃ failure, outcome = .error failure ∧ failure.isLimit = true

variable {α β : Type} {met : Prop}

namespace Near

theorem refl (outcome : Except Failure α) : Near met outcome outcome := .inl rfl

theorem eq {outcome ideal : Except Failure α} (h : Near False outcome ideal) : outcome = ideal :=
  h.resolve_right fun hm => hm.1

/-- Only where a limit can be met a failure at one is allowed for. -/
theorem error {ideal : Except Failure α} {failure : Failure} (h : ¬ ¬ met)
    (hf : failure.isLimit = true) : Near met (.error failure) ideal :=
  .inr ⟨Classical.not_not.mp h, failure, rfl, hf⟩

theorem bind {first second : Except Failure α} {f g : α → Except Failure β}
    (h : Near met first second) (hn : ∀ a, second = .ok a → Near met (f a) (g a)) :
    Near met (first >>= f) (second >>= g) := by
  rcases h with rfl | ⟨hm, failure, rfl, hf⟩
  · cases first with
    | error failure => exact .refl _
    | ok a => exact hn a rfl
  · exact .inr ⟨hm, failure, rfl, hf⟩

/-- Without limits the first attempt cannot fail. -/
theorem next {a : α} {first : Except Failure α} {f : α → Except Failure β}
    {ideal : Except Failure β} (h : Near met first (.ok a)) (hn : Near met (f a) ideal) :
    Near met (first >>= f) ideal := by
  have hb : Near met (first >>= f) ((.ok a : Except Failure α) >>= fun _ => ideal) :=
    h.bind fun b hb => by
      cases hb
      exact hn
  exact hb

theorem map {outcome ideal : Except Failure α} (h : Near met outcome ideal) (f : α → β) :
    Near met (outcome.map f) (ideal.map f) := by
  rcases h with rfl | ⟨hm, failure, rfl, hf⟩
  · exact .refl _
  · exact .inr ⟨hm, failure, rfl, hf⟩

theorem mapM {f g : α → Except Failure β} {items : List α}
    (h : ∀ item ∈ items, Near met (f item) (g item)) : Near met (items.mapM f) (items.mapM g) := by
  induction items with
  | nil => exact .refl _
  | cons item rest ih =>
    obtain ⟨hi, hr⟩ := List.forall_mem_cons.mp h
    rw [List.mapM_cons, List.mapM_cons]
    exact hi.bind fun first _ => (ih hr).bind fun others _ => .refl _

theorem matching {test ideal : Record → Except Failure Bool} {records : List Record}
    (h : ∀ record ∈ records, Near met (test record) (ideal record)) :
    Near met (RecordQuery.matching test records) (RecordQuery.matching ideal records) := by
  induction records with
  | nil => exact .refl _
  | cons record rest ih =>
    obtain ⟨hf, hr⟩ := List.forall_mem_cons.mp h
    exact hf.bind fun verdict _ => (ih hr).bind fun kept _ => .refl _

end Near

end RecordQuery
