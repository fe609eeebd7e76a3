import RecordQuery.Proofs.Condition.Failing
import RecordQuery.Proofs.Filter.Verdict
import RecordQuery.Proofs.Query.Leaves

/-!
# Filters that fail

A filter fails with the failure of one of its leaves. If that is not the
failure of a condition, the leaf is no condition and the failure names its
text.
-/

namespace RecordQuery

open Attempt (bind_error)

variable {failure : Failure}

theorem Leaf.holds_error {leaf : Leaf} {record : Record}
    (h : leaf.holds record = .error failure) :
    failure = .integerOutOfRange ∨
      ∃ written, leaf = .invalid written ∧ failure = .invalidCondition written := by
  cases leaf with
  | literal => cases h
  | condition => exact .inl (Condition.holds_error h)
  | invalid written => exact .inr ⟨written, rfl, (Except.error.inj h).symm⟩

namespace Expr

variable {record : Record}

mutual
theorem verdict_error : (expr : Expr Leaf) → expr.verdict record = .error failure →
    ∃ leaf ∈ expr.leaves, leaf.holds record = .error failure
  | leaf content, h => ⟨content, List.mem_singleton.mpr rfl, h⟩
  | join _ [], h => by cases h
  | join connective (part :: rest), h =>
    verdictOfParts_error connective.settling (part :: rest) h
  | group body, h => body.verdict_error h
theorem verdictOfParts_error (settling : Bool) : (parts : List (Expr Leaf)) →
    verdictOfParts record settling parts = .error failure →
    ∃ leaf ∈ leavesOfParts parts, leaf.holds record = .error failure
  | [], h => by cases h
  | part :: rest, h => by
    rw [verdictOfParts, bind_error] at h
    simp only [leavesOfParts, List.mem_append]
    rcases h with h | ⟨_, -, h⟩
    · obtain ⟨leaf, hl, hf⟩ := part.verdict_error h
      exact ⟨leaf, .inl hl, hf⟩
    · split at h
      · cases h
      · obtain ⟨leaf, hl, hf⟩ := verdictOfParts_error settling rest h
        exact ⟨leaf, .inr hl, hf⟩
end

mutual
theorem groupVerdicts_error : (expr : Expr Leaf) →
    ∀ outcome ∈ expr.groupVerdicts record, outcome.2 = .error failure →
      ∃ leaf ∈ expr.leaves, leaf.holds record = .error failure
  | leaf _, _, ho, _ => by cases ho
  | join _ parts, outcome, ho, h => groupVerdictsOfParts_error parts outcome ho h
  | group body, outcome, ho, h => by
    rw [groupVerdicts, List.mem_append, List.mem_singleton] at ho
    rcases ho with ho | rfl
    · exact body.groupVerdicts_error outcome ho h
    · exact body.verdict_error h
theorem groupVerdictsOfParts_error : (parts : List (Expr Leaf)) →
    ∀ outcome ∈ groupVerdictsOfParts record parts, outcome.2 = .error failure →
      ∃ leaf ∈ leavesOfParts parts, leaf.holds record = .error failure
  | [], _, ho, _ => by cases ho
  | part :: rest, outcome, ho, h => by
    simp only [leavesOfParts, List.mem_append]
    rcases List.mem_append.mp ho with ho | ho
    · obtain ⟨leaf, hl, hf⟩ := part.groupVerdicts_error outcome ho h
      exact ⟨leaf, .inl hl, hf⟩
    · obtain ⟨leaf, hl, hf⟩ := groupVerdictsOfParts_error rest outcome ho h
      exact ⟨leaf, .inr hl, hf⟩
end

theorem evaluate_error {expr : Expr Leaf} (h : expr.evaluate record = .error failure) :
    ∃ leaf ∈ expr.leaves, leaf.holds record = .error failure := by
  rw [evaluate, bind_error] at h
  rcases h with h | ⟨_, -, h⟩
  · obtain ⟨outcome, ho, he⟩ := Attempt.error_of_mapM h
    exact expr.groupVerdicts_error outcome ((byHeight_perm _).mem_iff.mp ho) he
  · exact expr.verdict_error h

end Expr

namespace Filter

theorem apply_error {text : List Char} {filter : Filter} {record : Record}
    (hp : parse text = .ok filter) (h : filter.apply record = .error failure) :
    ∃ leaf ∈ filter.outline.leaves, leaf.holds record = .error failure := by
  rcases ofExpr_of_parse hp with rfl | ⟨expr, rfl⟩
  · cases h
  · rw [expr.apply_ofExpr] at h
    rw [outline_ofExpr, expr.leaves_outline]
    exact expr.evaluate_error h

end Filter

end RecordQuery
