import RecordQuery.Proofs.Numeral

/-!
# Numerals before blanks

A numeral is read as far as it goes. A blank belongs to no numeral, so blanks
that follow a text leave what is read of it as it is.
-/

namespace RecordQuery

variable {rest : List Char}

namespace Text

/-- Empty, or blank from the start. -/
def BlankNext (rest : List Char) : Prop := ∀ c ∈ rest.head?, isBlank c = true

theorem blankNext_of_isBlankText (h : isBlankText rest = true) : BlankNext rest := fun c hc =>
  List.all_eq_true.mp h c (List.mem_of_mem_head? hc)

theorem BlankNext.ne (h : BlankNext (c :: rest)) (hd : isBlank d = false) : c ≠ d := by
  rintro rfl
  rw [h c rfl] at hd
  cases hd

theorem BlankNext.digit? (h : BlankNext (c :: rest)) : Text.digit? c = none := by
  cases hd : Text.digit? c with
  | none => rfl
  | some d =>
    have hb : isBlank c = false := isBlank_of_isDecimal (Option.isSome_iff_exists.mpr ⟨d, hd⟩)
    exact absurd rfl (h.ne hb)

theorem leadingDigits_none (h : digit? c = none) (rest : List Char) :
    leadingDigits (c :: rest) = ([], c :: rest) := by
  rw [leadingDigits, h]

theorem leadingDigits_some (h : digit? c = some d) (rest : List Char) :
    leadingDigits (c :: rest) = (d :: (leadingDigits rest).1, (leadingDigits rest).2) := by
  rw [leadingDigits, h]

theorem leadingDigits_append (hr : BlankNext rest) (text : List Char) :
    leadingDigits (text ++ rest) = ((leadingDigits text).1, (leadingDigits text).2 ++ rest) := by
  induction text with
  | nil =>
    cases rest with
    | nil => rfl
    | cons c rest => exact leadingDigits_none hr.digit? rest
  | cons c text ih =>
    rw [List.cons_append]
    cases hd : digit? c with
    | none =>
      rw [leadingDigits_none hd, leadingDigits_none hd]
      rfl
    | some d => rw [leadingDigits_some hd, leadingDigits_some hd, ih]

end Text

namespace Numeral

open Text (BlankNext leadingDigits leadingDigits_append)

theorem signOf_blank (hr : BlankNext rest) : signOf rest = (false, rest) := by
  unfold signOf
  split
  · exact absurd rfl (hr.ne rfl)
  · exact absurd rfl (hr.ne rfl)
  · rfl

theorem exponentOf_blank (hr : BlankNext rest) : exponentOf rest = (none, rest) := by
  cases rest with
  | nil => rfl
  | cons c rest =>
    have he : (c == 'e' || c == 'E') = false := by
      rw [beq_false_of_ne (hr.ne rfl), beq_false_of_ne (hr.ne rfl), Bool.or_false]
    simp only [exponentOf, he, Bool.false_eq_true, ↓reduceIte]

theorem signOf_append_blank (hr : BlankNext rest) (text : List Char) :
    signOf (text ++ rest) = ((signOf text).1, (signOf text).2 ++ rest) := by
  cases text with
  | nil => exact signOf_blank hr
  | cons c text =>
    by_cases hm : c = '-'
    · subst hm
      rfl
    · by_cases hp : c = '+'
      · subst hp
        rfl
      · simp [signOf, hm, hp]

theorem exponentOf_append_blank (hr : BlankNext rest) (text : List Char) :
    exponentOf (text ++ rest) = ((exponentOf text).1, (exponentOf text).2 ++ rest) := by
  cases text with
  | nil => exact exponentOf_blank hr
  | cons c text =>
    simp only [exponentOf, List.cons_append, signOf_append_blank hr, leadingDigits_append hr]
    split
    · rcases leadingDigits (signOf text).2 with ⟨_ | ⟨d, digits⟩, after⟩ <;> rfl
    · rfl

theorem mantissaOf_append_blank (hr : BlankNext rest) (text : List Char) :
    mantissaOf (text ++ rest) =
      (mantissaOf text).map fun found => (found.1, found.2.1, found.2.2 ++ rest) := by
  unfold mantissaOf
  rw [leadingDigits_append hr]
  rcases leadingDigits text with ⟨_ | ⟨d, digits⟩, _ | ⟨c, after⟩⟩
  · -- Neither digit nor point: what follows is a blank, if there is any.
    cases rest with
    | nil => rfl
    | cons c rest => simp [hr.ne (d := '.') rfl]
  · by_cases hp : c = '.'
    · subst hp
      simp only [List.cons_append, leadingDigits_append hr]
      rcases leadingDigits after with ⟨_ | ⟨d, digits⟩, after⟩ <;> rfl
    · simp [hp]
  · cases rest with
    | nil => rfl
    | cons c rest => simp [hr.ne (d := '.') rfl]
  · by_cases hp : c = '.'
    · subst hp
      simp only [List.cons_append, leadingDigits_append hr]
      rfl
    · simp [hp]

/-- What is read of a text is read of it before blanks, which are left over. -/
theorem scan_append_blank (hr : BlankNext rest) (text : List Char) :
    scan (text ++ rest) = (scan text).map fun found => (found.1, found.2 ++ rest) := by
  simp only [scan, signOf_append_blank hr, mantissaOf_append_blank hr, Option.map_map]
  cases mantissaOf (signOf text).2 with
  | none => rfl
  | some found => simp [exponentOf_append_blank hr]

theorem infinity_of_scanInfinity {found : Double × List Char}
    (h : scanInfinity text = some found) :
    (signOf text).2 = "Infinity".toList ++ found.2 ∧ found.1 = .infinite (signOf text).1 := by
  unfold scanInfinity at h
  dsimp only at h
  split at h
  · next hp =>
    cases h
    obtain ⟨tail, ht⟩ := List.isPrefixOf_iff_prefix.mp hp
    refine ⟨?_, rfl⟩
    rw [← ht, List.drop_left]
  · cases h

theorem scan_of_scanInfinity {found : Double × List Char}
    (h : scanInfinity text = some found) : scan text = none := by
  have hm : mantissaOf (signOf text).2 = none := by
    rw [(infinity_of_scanInfinity h).1]
    rfl
  simp only [scan, hm]
  rfl

theorem scanInfinity_append_blank (hr : BlankNext rest) {found : Double × List Char}
    (h : scanInfinity text = some found) :
    scanInfinity (text ++ rest) = some (found.1, found.2 ++ rest) := by
  obtain ⟨ht, hx⟩ := infinity_of_scanInfinity h
  have hp : "Infinity".toList.isPrefixOf ("Infinity".toList ++ (found.2 ++ rest)) = true :=
    List.isPrefixOf_iff_prefix.mpr (List.prefix_append _ _)
  simp only [scanInfinity, signOf_append_blank hr, ht, List.append_assoc, hp, ↓reduceIte,
    List.drop_left, hx]

end Numeral

end RecordQuery
