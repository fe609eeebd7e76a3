import RecordQuery.Proofs.Query.Splitting

/-!
# Parts of a text

Where a text is split, the scan stands as it did at its start, so what is
said about the whole is said part by part. No part is split any further: it
holds no separator of its own, nor any that the whole does not hold. Parts of
a neat text are neat again.
-/

namespace RecordQuery

open Nesting (start)

-- ---------------------------------------------------------------------------
-- Scanning up to a place
-- ---------------------------------------------------------------------------

namespace Nesting

@[simp] theorem length_levels (state : Nesting) (text : List Char) :
    (state.levels text).length = text.length := by
  rw [levels, List.length_map, length_marked]

theorem levels_eq_append {state : Nesting} {text : List Char}
    {before after : List (Char × Bool)} (h : state.levels text = before ++ after) :
    ∃ first second, text = first ++ second ∧ state.levels first = before ∧
      (state.run first).levels second = after := by
  refine ⟨text.take before.length, text.drop before.length,
    (List.take_append_drop _ _).symm, ?_⟩
  have hl : (state.levels (text.take before.length)).length = before.length := by
    have := congrArg List.length h
    rw [length_levels, List.length_append] at this
    rw [length_levels, List.length_take]
    omega
  rw [← List.take_append_drop before.length text, levels, marked_append, List.map_append] at h
  exact List.append_inj h hl

theorem eq_start_of_depthAt? {state : Nesting} (hc : isPlain c)
    (h : (state.depthAt? c == some 0) = true) : state = start := by
  have hd := beq_iff_eq.mp h
  rw [depthAt?, step_plain state hc] at hd
  split at hd
  · cases hd
  · next hn =>
    have hq := (Bool.or_eq_false_iff.mp (Bool.eq_false_iff.mpr hn)).2
    cases state with
    | mk depth inQuotes =>
      obtain rfl : depth = 0 := Option.some.inj hd
      obtain rfl : inQuotes = false := hq
      rfl

end Nesting

-- ---------------------------------------------------------------------------
-- Splitting part by part
-- ---------------------------------------------------------------------------

namespace Connective

theorem exists_sides (connective : Connective) {before after : List (Char × Bool)}
    (h : start.levels text = before ++ (connective.marks ++ after)) :
    ∃ head rest, text = head ++ (connective.separator ++ rest) ∧ start.run head = start ∧
      start.levels head = before ∧ start.levels rest = after := by
  obtain ⟨head, tail, rfl, hb, ht⟩ := Nesting.levels_eq_append h
  have hr : start.run head = start := by
    rw [marks, connective.separator_eq] at ht
    cases tail with
    | nil => cases ht
    | cons c tail =>
      obtain ⟨hc, -⟩ := List.cons.inj ht
      obtain ⟨rfl, hd⟩ := Prod.mk.inj hc
      exact Nesting.eq_start_of_depthAt? rfl hd
  rw [hr] at ht
  obtain ⟨separator, rest, rfl, hs, ha⟩ := Nesting.levels_eq_append ht
  have he : separator = connective.separator := by
    rw [← Nesting.map_fst_levels start separator, hs, marks, List.map_map]
    exact List.map_id _
  rw [he, connective.run_separator] at ha
  exact ⟨head, rest, by rw [he], hr, hb, ha⟩

/-- A text is one part, or a first part that ends where the separator occurs
first and is followed by it and by what is split further. -/
theorem leftmost_induction (connective : Connective) {motive : List Char → Prop}
    (last : ∀ text, ¬ connective.marks <:+: start.levels text → motive text)
    (next : ∀ head rest, start.run head = start →
      ¬ connective.marks <:+: start.levels head ++ connective.marks.dropLast →
      splitTopLevel (head ++ (connective.separator ++ rest)) connective.separator =
        head :: splitTopLevel rest connective.separator →
      motive rest → motive (head ++ (connective.separator ++ rest)))
    (text : List Char) : motive text := by
  induction hl : text.length using Nat.strongRecOn generalizing text with
  | ind length ih =>
    by_cases h : connective.marks <:+: start.levels text
    · obtain ⟨before, after, hw, hn⟩ :=
        Text.exists_first_occurrence connective.marks_ne_nil h
      obtain ⟨head, rest, rfl, hr, rfl, -⟩ := connective.exists_sides hw
      have hlt : rest.length < length := by
        have := List.length_pos_iff.mpr connective.marks_ne_nil
        rw [marks, List.length_map] at this
        rw [← hl, List.length_append, List.length_append]
        omega
      exact next head rest hr hn (splitTopLevel_append hr hn rest) (ih rest.length hlt rest rfl)
    · exact last text h

theorem split_induction (connective : Connective) {motive : List Char → Prop}
    (last : ∀ text, ¬ connective.marks <:+: start.levels text → motive text)
    (next : ∀ head rest, start.run head = start → ¬ connective.marks <:+: start.levels head →
      splitTopLevel (head ++ (connective.separator ++ rest)) connective.separator =
        head :: splitTopLevel rest connective.separator →
      motive rest → motive (head ++ (connective.separator ++ rest)))
    (text : List Char) : motive text := by
  induction text using connective.leftmost_induction with
  | last text hn => exact last text hn
  | next head rest hr hn hs ih =>
    exact next head rest hr (fun hi => hn (hi.trans (List.prefix_append _ _).isInfix)) hs ih

/-- What is told about a part is told there about the whole. -/
theorem levels_of_mem_split (connective : Connective) {text part : List Char}
    (h : part ∈ splitTopLevel text connective.separator) :
    start.levels part <:+: start.levels text := by
  induction text using connective.split_induction with
  | last text hn =>
    rw [splitTopLevel_eq_self hn, List.mem_singleton] at h
    exact h ▸ List.infix_rfl
  | next head rest hr hn hs ih =>
    rw [Nesting.levels_append hr, Nesting.levels_append connective.run_separator]
    rw [hs, List.mem_cons] at h
    rcases h with rfl | h
    · exact (List.prefix_append _ _).isInfix
    · exact (ih h).trans ((List.suffix_append _ _).trans (List.suffix_append _ _)).isInfix

theorem not_infix_of_mem_split (connective : Connective) {text part : List Char}
    (h : part ∈ splitTopLevel text connective.separator) :
    ¬ connective.marks <:+: start.levels part := by
  induction text using connective.split_induction with
  | last text hn =>
    rw [splitTopLevel_eq_self hn, List.mem_singleton] at h
    exact h ▸ hn
  | next head rest hr hn hs ih =>
    rw [hs, List.mem_cons] at h
    rcases h with rfl | h
    · exact hn
    · exact ih h

theorem neat_sides (connective : Connective) {head rest : List Char}
    (h : Text.Neat (head ++ (connective.separator ++ rest))) :
    (Text.Neat head ∧ head ≠ []) ∧ Text.Neat rest ∧ rest ≠ [] := by
  rw [connective.separator_eq, List.cons_append, List.append_assoc] at h
  obtain ⟨hh, ht, -⟩ := h.of_join
  exact ⟨hh, ht.of_join.2⟩

theorem neat_of_mem_split (connective : Connective) {text part : List Char}
    (h : part ∈ splitTopLevel text connective.separator) (ht : Text.Neat text) (hn : text ≠ []) :
    Text.Neat part ∧ part ≠ [] := by
  induction text using connective.split_induction with
  | last text hs =>
    rw [splitTopLevel_eq_self hs, List.mem_singleton] at h
    exact h ▸ ⟨ht, hn⟩
  | next head rest _ _ hs ih =>
    obtain ⟨hh, hr, hrn⟩ := connective.neat_sides ht
    rw [hs, List.mem_cons] at h
    rcases h with rfl | h
    · exact hh
    · exact ih h hr hrn

end Connective

end RecordQuery
