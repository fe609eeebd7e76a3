import RecordQuery.Text.Blank
import RecordQuery.Text.Case
import RecordQuery.Text.Digit
import RecordQuery.Text.Word

/-!
# Word characters

No word character and no digit is a blank, and lower case keeps the
characters that are no letters and makes no text shorter.
-/

namespace RecordQuery.Text

theorem toNat_of_isDigit {c : Char} (h : c.isDigit = true) : 48 ≤ c.toNat ∧ c.toNat ≤ 57 := by
  simpa [Char.isDigit, UInt32.le_iff_toNat_le, ← Char.toNat_val] using h

theorem toNat_of_isWord_ascii (h : isWord c = true) (ha : isAscii c = true) : 48 ≤ c.toNat := by
  rw [isWord, if_pos ha] at h
  rcases Bool.or_eq_true_iff.mp h with h | h
  · have hn : (65 ≤ c.toNat ∧ c.toNat ≤ 90 ∨ 97 ≤ c.toNat ∧ c.toNat ≤ 122) ∨
        48 ≤ c.toNat ∧ c.toNat ≤ 57 := by
      replace h : ((decide (65 ≤ c.val ∧ c.val ≤ 90) || (97 ≤ c.val && c.val ≤ 122)) ||
          (48 ≤ c.val && c.val ≤ 57)) = true := h
      simpa [UInt32.le_iff_toNat_le, ← Char.toNat_val] using h
    omega
  · rw [beq_iff_eq.mp h]
    decide

theorem blankRanges_ascii : ∀ range ∈ blankRanges, range.1 < 128 → range.2 ≤ 32 := by decide

theorem isBlank_eq_false {ranges : Ranges} (hs : ∀ range ∈ blankRanges, 128 ≤ range.1 →
      ∀ other ∈ ranges, range.2 < other.1 ∨ other.2 < range.1)
    (ha : isAscii c = true → 32 < c.toNat)
    (hr : isAscii c = false → ∃ other ∈ ranges, other.1 ≤ c.toNat ∧ c.toNat ≤ other.2) :
    isBlank c = false := by
  refine Bool.eq_false_iff.mpr fun hb => ?_
  obtain ⟨range, hm, hl, hu⟩ := (Ranges.has_iff blankRanges c).mp hb
  cases hc : isAscii c with
  | true =>
    have hn := ha hc
    have hc : c.toNat < 128 := of_decide_eq_true hc
    have := blankRanges_ascii range hm (by omega)
    omega
  | false =>
    have hn : ¬ c.toNat < 128 := of_decide_eq_false hc
    have hf : 128 ≤ range.1 := by
      by_cases hf : range.1 < 128
      · have := blankRanges_ascii range hm hf
        omega
      · omega
    obtain ⟨other, ho, hlo, huo⟩ := hr hc
    have := hs range hm hf other ho
    omega

theorem blankRanges_apart : ∀ range ∈ blankRanges, 128 ≤ range.1 →
    ∀ other ∈ wordRanges, range.2 < other.1 ∨ other.2 < range.1 := by
  decide +kernel

theorem isBlank_of_isWord (h : isWord c = true) : isBlank c = false := by
  refine isBlank_eq_false blankRanges_apart (fun ha => ?_) fun ha => ?_
  · have := toNat_of_isWord_ascii h ha
    omega
  · rw [isWord, if_neg (by simp [ha])] at h
    exact (Ranges.has_iff wordRanges c).mp h

theorem isWord_of_isBlank (h : isBlank c = true) : isWord c = false := by
  refine Bool.eq_false_iff.mpr fun hw => ?_
  rw [isBlank_of_isWord hw] at h
  cases h

def isDecimal (c : Char) : Bool := (digit? c).isSome

theorem isBlank_of_isDecimal (h : isDecimal c = true) : isBlank c = false := by
  have hs : ∀ range ∈ blankRanges, 128 ≤ range.1 →
      ∀ other ∈ digitRanges, range.2 < other.1 ∨ other.2 < range.1 := by decide +kernel
  rw [isDecimal, digit?] at h
  refine isBlank_eq_false hs (fun ha => ?_) fun ha => ?_
  · rw [if_pos ha] at h
    split at h
    · next hd =>
      have := toNat_of_isDigit hd
      omega
    · cases h
  · rw [if_neg (by simp [ha]), Option.isSome_map, List.find?_isSome] at h
    simpa using h

/-- What is its own lower case is found again in the lower case of a text. -/
theorem mem_lower (hc : c ≠ 'Σ') (hl : lowerChar c = [c]) (h : c ∈ text) : c ∈ lower text := by
  suffices hs : ∀ afterLetter, c ∈ lowerFrom afterLetter text from hs false
  induction text with
  | nil => cases h
  | cons x rest ih =>
    intro afterLetter
    simp only [lowerFrom]
    rcases List.mem_cons.mp h with rfl | h
    · rw [if_neg (by simpa using hc), hl]
      exact List.mem_cons_self
    · split
      · exact List.mem_cons_of_mem _ (ih h _)
      · exact List.mem_append_right _ (ih h _)

theorem length_le_length_lower (text : List Char) : text.length ≤ (lower text).length := by
  suffices h : ∀ afterLetter, text.length ≤ (lowerFrom afterLetter text).length from h false
  induction text with
  | nil => exact fun _ => Nat.zero_le _
  | cons c rest ih =>
    intro afterLetter
    simp only [lowerFrom]
    split
    · exact Nat.succ_le_succ (ih _)
    · have hc : 1 ≤ (lowerChar c).length := by
        unfold lowerChar
        split
        · exact Nat.le_refl 1
        · split
          · exact Nat.le_succ 1
          · exact Nat.le_refl 1
      have hr := ih (if isCaseIgnorable c then afterLetter else isCased c)
      rw [List.length_append, List.length_cons]
      omega

end RecordQuery.Text
