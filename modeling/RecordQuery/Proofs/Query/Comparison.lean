import Mathlib.Data.List.TakeWhile
import RecordQuery.Proofs.Query.Grammar.Statements

/-!
# Texts that are comparisons

What is read as a comparison is one: a name, an operator and a literal, with
blanks between them or without.
-/

namespace RecordQuery

namespace Condition

variable {text : List Char}

theorem eq_of_nameOf? {name rest : List Char} (h : nameOf? text = some (name, rest)) :
    name ≠ [] ∧ (∀ c ∈ name, Text.isWord c = true) ∧ text = name ++ rest := by
  unfold nameOf? at h
  split at h
  · cases h
  · next hn =>
    cases h
    exact ⟨hn, fun c hc => List.mem_takeWhile_imp hc, List.takeWhile_append_dropWhile.symm⟩

theorem eq_of_operatorOf? {operator : Operator} {rest : List Char}
    (h : operatorOf? text = some (operator, rest)) :
    ∃ comparison : Grammar.Comparison, operator = comparison.operator ∧
      text = comparison.operator.name.toList ++ rest := by
  unfold operatorOf? at h
  split at h
  · cases h
    exact ⟨.unequal, rfl, rfl⟩
  · cases h
    exact ⟨.equal, rfl, rfl⟩
  · cases h
    exact ⟨.greater, rfl, rfl⟩
  · cases h
    exact ⟨.less, rfl, rfl⟩
  · cases h

theorem exists_blanks (text : List Char) :
    ∃ blanks, Text.isBlankText blanks = true ∧ text = blanks ++ Text.trimStart text := by
  refine ⟨text.takeWhile Text.isBlank, ?_, List.takeWhile_append_dropWhile.symm⟩
  exact List.all_eq_true.mpr fun c hc => List.mem_takeWhile_imp hc

theorem eq_of_comparison? {field : String} {operator : Operator} {literal : List Char}
    (h : comparison? text = some (field, operator, literal)) :
    ∃ (name second third : List Char) (comparison : Grammar.Comparison), name ≠ [] ∧
      (∀ c ∈ name, Text.isWord c = true) ∧ Text.isBlankText second = true ∧
      Text.isBlankText third = true ∧ literal ≠ [] ∧
      (∀ c ∈ literal.head?, Text.isBlank c = false) ∧
      text = name ++ (second ++ (comparison.operator.name.toList ++ (third ++ literal))) := by
  simp only [comparison?, Option.bind_eq_bind, Option.bind_eq_some_iff] at h
  obtain ⟨⟨name, afterName⟩, hn, ⟨found, afterOperator⟩, ho, h⟩ := h
  split at h
  · cases h
  · next hl =>
    cases h
    obtain ⟨hne, hw, rfl⟩ := eq_of_nameOf? hn
    obtain ⟨comparison, -, ht⟩ := eq_of_operatorOf? ho
    obtain ⟨second, hs, he⟩ := exists_blanks afterName
    obtain ⟨third, hb, hr⟩ := exists_blanks afterOperator
    refine ⟨name, second, third, comparison, hne, hw, hs, hb, ?_, Text.trimStart_begins _, ?_⟩
    · intro hnil
      simp [hnil] at hl
    · rw [← hr, ← ht, ← he]

end Condition

end RecordQuery
