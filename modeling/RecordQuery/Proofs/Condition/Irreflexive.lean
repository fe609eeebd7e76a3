import RecordQuery.Condition
import RecordQuery.Proofs.Numeral.Leading
import RecordQuery.Proofs.Text.Words

/-!
# Texts compared with themselves

A text in a record has to be a numeral as a whole to be a number, while of a
text in a condition the longest numeral it starts with is taken. Where the
first is a number, both are the same one. So no text is before or after
itself: blank text is zero on the one side but no number on the other.
-/

namespace RecordQuery

open Text (isBlankText)

namespace Value

variable {s : List Char}

theorem leadingNumber_eq (hb : isBlankText s = false) (hn : numberOfText s ≠ .nan) :
    leadingNumber s = numberOfText s := by
  obtain ⟨blanks, hblank, ht⟩ := Text.exists_trimEnd (Text.trimStart s)
  replace ht : Text.trimStart s = Text.trim s ++ blanks := ht
  have hr := Text.blankNext_of_isBlankText hblank
  have hne : (Text.trim s).isEmpty = false := by
    rw [List.isEmpty_eq_false_iff, ne_eq, Text.trim_eq_nil_iff, hb]
    exact Bool.false_ne_true
  unfold numberOfText at hn ⊢
  simp only [hne, Bool.false_eq_true, ↓reduceIte] at hn ⊢
  cases hw : Numeral.ofText? (Text.trim s) with
  | some numeral =>
    simp only [leadingNumber, ht, Numeral.scan_append_blank hr, Numeral.scan_of_ofText? hw]
    rfl
  | none =>
    rw [hw] at hn
    dsimp only at hn ⊢
    split at hn
    · next x hi =>
      simp only [leadingNumber, ht, Numeral.scan_append_blank hr, Numeral.scan_of_scanInfinity hi,
        Numeral.scanInfinity_append_blank hr hi]
      rfl
    · exact absurd rfl hn

theorem leadingNumber_blank (h : isBlankText s = true) : leadingNumber s = .nan := by
  have ht : Text.trimStart s = [] := by
    have hs := Text.trimStart_blank_append h []
    rwa [List.append_nil] at hs
  rw [leadingNumber, ht]
  rfl

theorem toNumber_text (s : String) : (text s).toNumber = .ok (numberOfText s.toList) := rfl

theorem parseFloat_text (s : String) : (text s).parseFloat = .ok (leadingNumber s.toList) := by
  show (searchText (text s) >>= fun found => .ok (leadingNumber found)) = _
  rw [searchText]
  rfl

end Value

namespace Condition

open Value (toNumber_text parseFloat_text leadingNumber_eq leadingNumber_blank)

/-- An order in which nothing is before itself and only numbers are in. -/
theorem ordered_self {compare : Double → Double → Bool} (hi : ∀ x, compare x x = false)
    (hl : ∀ x, compare .nan x = false) (hr : ∀ x, compare x .nan = false) (s : String) :
    ordered compare (.text s) (.text s) = .ok false := by
  have hc : compare (Value.numberOfText s.toList) (Value.leadingNumber s.toList) = false := by
    by_cases hn : Value.numberOfText s.toList = .nan
    · rw [hn]
      exact hl _
    · cases hb : isBlankText s.toList with
      | true =>
        rw [leadingNumber_blank hb]
        exact hr _
      | false =>
        rw [leadingNumber_eq hb hn]
        exact hi _
  rw [ordered, toNumber_text, parseFloat_text]
  split
  · rfl
  · exact congrArg Except.ok hc

/-- A text that is not blank and is a number as a record's value is the same
number as a condition's value. No text, number or not, is in either order
with itself. -/
theorem text_unordered :
    (∀ s : String, isBlankText s.toList = false → (Value.text s).toNumber ≠ .ok .nan →
      ∃ x, (Value.text s).toNumber = .ok x ∧ (Value.text s).parseFloat = .ok x) ∧
    (∀ (record : Record) (field s : String), record.get field = .text s →
      (mk field .greater (.text s)).holds record = .ok false ∧
      (mk field .less (.text s)).holds record = .ok false) := by
  refine ⟨fun s hb hn => ⟨_, toNumber_text s, ?_⟩, fun record field s hf => ?_⟩
  · have hne : Value.numberOfText s.toList ≠ .nan := fun he => hn (congrArg Except.ok he)
    rw [parseFloat_text, leadingNumber_eq hb hne]
  · have hl : ∀ x, Double.less .nan x = false := fun x => rfl
    have hr : ∀ x, Double.less x .nan = false := fun x => by cases x <;> rfl
    simp only [holds, hf]
    refine ⟨ordered_self ?_ ?_ ?_ s, ordered_self Double.less_irrefl hl hr s⟩
    · exact Double.less_irrefl
    · exact hr
    · exact hl

/-- The blanks around the numeral are no part of it on either side. -/
theorem text_unordered_padded :
    (∃ x, (Value.text " 35e1 ").toNumber = .ok x ∧ (Value.text " 35e1 ").parseFloat = .ok x) ∧
    (mk "n" .greater (.text " 35e1 ")).holds [("n", .text " 35e1 ")] = .ok false ∧
    (mk "n" .less (.text " 35e1 ")).holds [("n", .text " 35e1 ")] = .ok false := by
  have hn : Value.numberOfText " 35e1 ".toList ≠ .nan := by decide +kernel
  refine ⟨text_unordered.1 " 35e1 " rfl fun h => ?_, ?_⟩
  · exact hn (Except.ok.inj h)
  · exact text_unordered.2 [("n", .text " 35e1 ")] "n" " 35e1 " rfl

end Condition

end RecordQuery
