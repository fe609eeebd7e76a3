import RecordQuery.Proofs.Query.Parts

/-!
# Where a text is cut

A separator counts where it stands outside quotes and parentheses. The cuts
of a text are the places that a search from the left takes: each begins where
the separator counts, none reaches into the next, and the separator counts
nowhere else but inside a cut that began before. The parts between the cuts
hold no such place of their own, and joining them gives the text back.
-/

namespace RecordQuery

open Nesting (start)

-- ---------------------------------------------------------------------------
-- Places of a separator
-- ---------------------------------------------------------------------------

namespace Connective

variable {connective : Connective} {text first second : List Char} {place : Nat}

/-- The separator stands at a place, all of it outside quotes and at depth
zero. -/
def StandsAt (connective : Connective) (text : List Char) (place : Nat) : Prop :=
  connective.separator <+: text.drop place ∧
    ∀ offset < connective.separator.length, start.run (text.take (place + offset)) = start

theorem length_separator_pos (connective : Connective) : 0 < connective.separator.length := by
  cases connective <;> decide

theorem StandsAt.marks_begin (h : connective.StandsAt text place) :
    connective.marks <+: (start.levels text).drop place := by
  obtain ⟨⟨rest, hd⟩, ha⟩ := h
  have hr : start.run (text.take place) = start := ha 0 connective.length_separator_pos
  have hp : place ≤ text.length := by
    have hl := congrArg List.length hd
    have := connective.length_separator_pos
    rw [List.length_append, List.length_drop] at hl
    omega
  have hl : (start.levels (text.take place)).length = place := by
    rw [Nesting.length_levels, List.length_take, Nat.min_eq_left hp]
  have ht : start.levels text =
      start.levels (text.take place) ++ (connective.marks ++ start.levels rest) := by
    rw [← connective.levels_separator, ← Nesting.levels_append connective.run_separator, hd,
      ← Nesting.levels_append hr, List.take_append_drop]
  rw [ht, List.drop_left' hl]
  exact List.prefix_append _ _

theorem not_standsAt (h : ¬ connective.marks <:+: start.levels text) (place : Nat) :
    ¬ connective.StandsAt text place := fun hs =>
  h (hs.marks_begin.isInfix.trans (List.drop_suffix place _).isInfix)

theorem standsAt_append (h : start.run first = start) (place : Nat) :
    connective.StandsAt (first ++ second) (first.length + place) ↔
      connective.StandsAt second place := by
  simp only [StandsAt, Nat.add_assoc, List.drop_length_add_append, List.take_length_add_append,
    Nesting.run_append, h]

theorem standsAt_separator (h : start.run first = start) :
    connective.StandsAt (first ++ (connective.separator ++ second)) first.length := by
  have hs : connective.StandsAt (connective.separator ++ second) 0 := by
    refine ⟨List.prefix_append _ _, fun offset ho => ?_⟩
    rw [Nat.zero_add, List.take_append_of_le_length (Nat.le_of_lt ho)]
    exact Nesting.run_plain start fun c hc => connective.plain_separator c (List.mem_of_mem_take hc)
  exact (standsAt_append h 0).mpr hs

theorem le_of_standsAt
    (hn : ¬ connective.marks <:+: start.levels first ++ connective.marks.dropLast)
    (h : start.run first = start)
    (hs : connective.StandsAt (first ++ (connective.separator ++ second)) place) :
    first.length ≤ place := by
  by_contra hp
  have hm := hs.marks_begin
  rw [Nesting.levels_append h, Nesting.levels_append connective.run_separator,
    connective.levels_separator, List.drop_append_of_le_length (by simp; omega)] at hm
  have hd : (start.levels first).drop place ≠ [] := by
    rw [ne_eq, List.drop_eq_nil_iff, Nesting.length_levels]
    exact hp
  have hi := (Text.prefix_of_prefix_append connective.marks_ne_nil hd hm).isInfix
  obtain ⟨before, hb⟩ := List.drop_suffix place (start.levels first)
  exact hn (hi.trans ⟨before, [], by rw [List.append_nil, ← List.append_assoc, hb]⟩)

end Connective

-- ---------------------------------------------------------------------------
-- Cuts
-- ---------------------------------------------------------------------------

/-- Where the separators between parts begin, if each has a given width. -/
def seams (width : Nat) : List (List Char) → List Nat
  | [] | [_] => []
  | part :: next :: rest =>
    part.length :: (seams width (next :: rest)).map (part.length + width + ·)

theorem seams_cons {width : Nat} {part : List Char} {parts : List (List Char)} (h : parts ≠ []) :
    seams width (part :: parts) =
      part.length :: (seams width parts).map (part.length + width + ·) := by
  cases parts with
  | nil => exact absurd rfl h
  | cons next rest => rfl

theorem splitTopLevel_ne_nil (text separator : List Char) : splitTopLevel text separator ≠ [] := by
  simp [splitTopLevel, Text.cut_ne_nil]

namespace Connective

/-- The places that a search for the separator takes from left to right. -/
structure LeftmostCuts (connective : Connective) (text : List Char) (cuts : List Nat) : Prop where
  stands : ∀ place ∈ cuts, connective.StandsAt text place
  apart : cuts.Pairwise fun first second => first + connective.separator.length ≤ second
  /-- What is not taken begins inside one that was taken before it. -/
  leftmost : ∀ place, connective.StandsAt text place →
    ∃ cut ∈ cuts, cut ≤ place ∧ place < cut + connective.separator.length

theorem LeftmostCuts.nil {connective : Connective} {text : List Char}
    (h : ∀ place, ¬ connective.StandsAt text place) : connective.LeftmostCuts text [] :=
  ⟨fun _ hm => (nomatch hm), .nil, fun place hs => absurd hs (h place)⟩

theorem LeftmostCuts.cons {connective : Connective} {head rest : List Char} {cuts : List Nat}
    (hr : start.run head = start)
    (hn : ¬ connective.marks <:+: start.levels head ++ connective.marks.dropLast)
    (h : connective.LeftmostCuts rest cuts) :
    connective.LeftmostCuts (head ++ (connective.separator ++ rest))
      (head.length :: cuts.map (head.length + connective.separator.length + ·)) := by
  have hw : start.run (head ++ connective.separator) = start := by
    rw [Nesting.run_append, hr, connective.run_separator]
  have hs (place : Nat) :
      connective.StandsAt (head ++ (connective.separator ++ rest))
          (head.length + connective.separator.length + place) ↔
        connective.StandsAt rest place := by
    rw [← List.append_assoc, ← List.length_append]
    exact standsAt_append hw place
  refine ⟨?_, ?_, fun place hp => ?_⟩
  · rw [List.forall_mem_cons, List.forall_mem_map]
    exact ⟨standsAt_separator hr, fun place hm => (hs place).mpr (h.stands place hm)⟩
  · rw [List.pairwise_cons, List.forall_mem_map, List.pairwise_map]
    exact ⟨fun place _ => Nat.le_add_right _ _, h.apart.imp fun hl => by omega⟩
  · have hl := le_of_standsAt hn hr hp
    by_cases hb : place < head.length + connective.separator.length
    · exact ⟨head.length, List.mem_cons_self, hl, hb⟩
    · obtain ⟨after, rfl⟩ := Nat.exists_eq_add_of_le (Nat.not_lt.mp hb)
      obtain ⟨cut, hm, hc, hlt⟩ := h.leftmost after ((hs after).mp hp)
      refine ⟨_, List.mem_cons_of_mem _ (List.mem_map_of_mem hm), ?_, ?_⟩ <;> omega

theorem leftmostCuts_seams (connective : Connective) (text : List Char) :
    connective.LeftmostCuts text
      (seams connective.separator.length (splitTopLevel text connective.separator)) := by
  induction text using connective.leftmost_induction with
  | last text hn =>
    rw [splitTopLevel_eq_self hn]
    exact .nil (not_standsAt hn)
  | next head rest hr hn hs ih =>
    rw [hs, seams_cons (splitTopLevel_ne_nil _ _)]
    exact ih.cons hr hn

theorem intercalate_split (connective : Connective) (text : List Char) :
    connective.separator.intercalate (splitTopLevel text connective.separator) = text := by
  induction text using connective.split_induction with
  | last text hn => rw [splitTopLevel_eq_self hn, List.intercalate_singleton]
  | next head rest _ _ hs ih =>
    obtain ⟨part, parts, hp⟩ := List.exists_cons_of_ne_nil
      (splitTopLevel_ne_nil rest connective.separator)
    rw [hp] at hs ih
    rw [hs, List.intercalate_cons_cons, ih, List.append_assoc]

/-- Splitting a text at a connective loses nothing, takes every separator that
counts but those that begin inside one already taken, and leaves parts that
are split no further on their own. -/
theorem split_leftmost (connective : Connective) (text : List Char) :
    connective.separator.intercalate (splitTopLevel text connective.separator) = text ∧
      (∀ part ∈ splitTopLevel text connective.separator,
        (∀ place, ¬ connective.StandsAt part place) ∧
          splitTopLevel part connective.separator = [part]) ∧
      connective.LeftmostCuts text
        (seams connective.separator.length (splitTopLevel text connective.separator)) := by
  refine ⟨connective.intercalate_split text, fun part hp => ?_, connective.leftmostCuts_seams text⟩
  have hn := connective.not_infix_of_mem_split hp
  exact ⟨not_standsAt hn, splitTopLevel_eq_self hn⟩

/-- Two separators that share a space: the first takes it. -/
example : splitTopLevel "a OR OR b".toList Connective.or.separator =
    ["a".toList, "OR b".toList] := by decide +kernel

end Connective

end RecordQuery
