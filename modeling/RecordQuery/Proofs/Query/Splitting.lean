import RecordQuery.Proofs.Query.Nesting
import RecordQuery.Proofs.Text.Blank
import RecordQuery.Proofs.Text.Cut
import RecordQuery.Query.Expr

/-!
# Splitting at connectives

A separator is a keyword between two spaces, all at the top level. It can
only be found where the keyword is one of the words that top-level spaces
cut a text into, so a text without the keyword is split nowhere, and parts
that are balanced and hold no keyword are found again in what joins them.
-/

namespace RecordQuery

open Nesting (start)

namespace Nesting

theorem levels_append (h : start.run first = start) (second : List Char) :
    start.levels (first ++ second) = start.levels first ++ start.levels second := by
  simp only [levels, marked_append, h, List.map_append]

theorem levels_plain (h : ∀ c ∈ text, isPlain c) :
    start.levels text = text.map fun c => (c, true) := by
  induction text with
  | nil => rfl
  | cons c text ih =>
    have hc := h c (by simp)
    have hs := step_plain start hc
    have hq : (c == '"') = false := by
      simp only [isPlain, Bool.and_eq_true, bne_iff_ne] at hc
      exact beq_false_of_ne hc.1.1
    rw [List.map_cons, ← ih fun d hd => h d (List.mem_cons_of_mem _ hd)]
    show (c, start.depthAt? c == some 0) :: (start.step c).levels text = _
    rw [hs, depthAt?, hs, hq]
    rfl

/-- No space stands at the top level. -/
def Solid (text : List Char) : Prop := (' ', true) ∉ start.levels text

theorem mem_of_mem_levels {state : Nesting} (h : (c, level) ∈ state.levels text) : c ∈ text := by
  rw [← map_fst_levels state text]
  exact List.mem_map_of_mem h

theorem Solid.of_not_mem (h : ' ' ∉ text) : Solid text := fun hm => h (mem_of_mem_levels hm)

theorem Solid.append (hr : start.run first = start) (ha : Solid first) (hb : Solid second) :
    Solid (first ++ second) := by
  rw [Solid, levels_append hr, List.mem_append]
  exact not_or.mpr ⟨ha, hb⟩

theorem Solid.quoted (h : '"' ∉ text) : Solid ('"' :: (text ++ ['"'])) := by
  simp [Solid, levels, marked_quoted start rfl h]

theorem Solid.group (h : Balanced text) : Solid ('(' :: (text ++ [')'])) := by
  intro hm
  rw [levels, marked_group h.run] at hm
  simp only [List.map_cons, List.map_append, List.map_nil, List.mem_cons, List.mem_append,
    List.mem_map, Prod.mk.injEq, List.not_mem_nil, Char.reduceEq, false_and, false_or,
    or_false] at hm
  obtain ⟨⟨c, depth⟩, hc, -, hd⟩ := hm
  have hz : depth = some 0 := by simpa using hd
  subst hz
  exact absurd (h.pos_of_mem hc) (Int.lt_irrefl 0)

def topWords (text : List Char) : List (List (Char × Bool)) :=
  Text.cut [(' ', true)] (start.levels text)

theorem topWords_solid (h : Solid text) : topWords text = [start.levels text] :=
  Text.cut_singleton_of_not_mem h

theorem topWords_space (text : List Char) : topWords (' ' :: text) = [] :: topWords text :=
  Text.cut_singleton_self _ _

theorem topWords_join (h : start.run first = start) (second : List Char) :
    topWords (first ++ ' ' :: second) = topWords first ++ topWords second := by
  rw [topWords, levels_append h]
  exact Text.cut_singleton_join _ _ _

theorem topWords_append (hr : start.run first = start) (hs : Solid first) (second : List Char) :
    ∃ word words, topWords second = word :: words ∧
      topWords (first ++ second) = (start.levels first ++ word) :: words := by
  rw [topWords, topWords, levels_append hr]
  exact Text.cut_singleton_append hs _

end Nesting

open Nesting (Balanced Solid topWords)

namespace Connective

def word (connective : Connective) : List (Char × Bool) :=
  connective.name.toList.map fun c => (c, true)

theorem separator_eq (connective : Connective) :
    connective.separator = ' ' :: (connective.name.toList ++ [' ']) := by
  cases connective <;> rfl

theorem separator_levels (connective : Connective) :
    (connective.separator.map fun c => (c, true)) =
      (' ', true) :: (connective.word ++ [(' ', true)]) := by
  cases connective <;> rfl

theorem space_not_mem_word (connective : Connective) : (' ', true) ∉ connective.word := by
  cases connective <;> decide

theorem plain_separator (connective : Connective) :
    ∀ c ∈ connective.separator, Nesting.isPlain c := by
  cases connective <;> exact List.all_eq_true.mp rfl

theorem run_separator (connective : Connective) : start.run connective.separator = start :=
  Nesting.run_plain start connective.plain_separator

def marks (connective : Connective) : List (Char × Bool) :=
  connective.separator.map fun c => (c, true)

theorem marks_ne_nil (connective : Connective) : connective.marks ≠ [] := by
  cases connective <;> exact List.cons_ne_nil _ _

theorem levels_separator (connective : Connective) :
    start.levels connective.separator = connective.marks :=
  Nesting.levels_plain connective.plain_separator

theorem topWords_name (connective : Connective) :
    topWords connective.name.toList = [connective.word] := by
  cases connective <;> rfl

theorem run_name (connective : Connective) : start.run connective.name.toList = start := by
  cases connective <;> rfl

theorem word_injective {first second : Connective} (h : first.word = second.word) :
    first = second := by
  cases first <;> cases second <;> first | rfl | exact absurd h (by decide)

end Connective

theorem topWords_separator (connective : Connective) (h : start.run first = start)
    (second : List Char) :
    topWords (first ++ (connective.separator ++ second)) =
      topWords first ++ connective.word :: topWords second := by
  rw [connective.separator_eq, List.cons_append, Nesting.topWords_join h, List.append_assoc,
    List.singleton_append, Nesting.topWords_join connective.run_name, connective.topWords_name]
  rfl

-- ---------------------------------------------------------------------------
-- Texts without keywords
-- ---------------------------------------------------------------------------

/-- No keyword is a word of its own at the top level. -/
def Keywordless (text : List Char) : Prop :=
  ∀ connective : Connective, connective.word ∉ topWords text

/-- A character that is in no keyword, such as a mark or a digit. -/
def isForeign (c : Char) : Bool := !("ANDOR".toList.contains c)

theorem not_isForeign_of_mem_word {connective : Connective} (h : (c, true) ∈ connective.word) :
    isForeign c = false := by
  have hw : ∀ mark ∈ connective.word, isForeign mark.1 = false := by
    cases connective <;> decide
  exact hw _ h

theorem ne_word_of_isForeign {word : List (Char × Bool)} (connective : Connective)
    (h : ∃ mark ∈ word, isForeign mark.1 = true) : connective.word ≠ word := by
  rintro rfl
  obtain ⟨⟨c, level⟩, hm, hf⟩ := h
  obtain ⟨d, -, hd⟩ := List.mem_map.mp hm
  obtain ⟨rfl, rfl⟩ := Prod.mk.inj hd
  rw [not_isForeign_of_mem_word hm] at hf
  cases hf

theorem exists_foreign_mark {state : Nesting} (h : ∃ c ∈ text, isForeign c = true) :
    ∃ mark ∈ state.levels text, isForeign mark.1 = true := by
  obtain ⟨c, hc, hf⟩ := h
  rw [← Nesting.map_fst_levels state text] at hc
  obtain ⟨mark, hm, rfl⟩ := List.mem_map.mp hc
  exact ⟨mark, hm, hf⟩

namespace Keywordless

theorem nil : Keywordless [] := by
  intro connective
  cases connective <;> decide

theorem space (h : Keywordless text) : Keywordless (' ' :: text) := by
  intro connective
  rw [Nesting.topWords_space, List.mem_cons]
  refine not_or.mpr ⟨?_, h connective⟩
  cases connective <;> decide

theorem append (hr : start.run first = start) (hs : Solid first)
    (hf : ∃ c ∈ first, isForeign c = true) (h : Keywordless second) :
    Keywordless (first ++ second) := by
  intro connective
  obtain ⟨word, words, hw, ha⟩ := Nesting.topWords_append hr hs second
  rw [ha, List.mem_cons]
  refine not_or.mpr ⟨ne_word_of_isForeign connective ?_, fun hm => h connective ?_⟩
  · obtain ⟨mark, hm, hc⟩ := exists_foreign_mark hf
    exact ⟨mark, List.mem_append_left _ hm, hc⟩
  · rw [hw]
    exact List.mem_cons_of_mem _ hm

theorem solid (hr : start.run text = start) (hs : Solid text)
    (hf : ∃ c ∈ text, isForeign c = true) : Keywordless text := by
  have h := append hr hs hf nil
  rwa [List.append_nil] at h

theorem group (h : Balanced text) : Keywordless ('(' :: (text ++ [')'])) :=
  solid h.group.run (.group h) ⟨'(', List.mem_cons_self, rfl⟩

theorem word (hp : ∀ c ∈ first, Nesting.isPlain c) (hs : ' ' ∉ first)
    (hk : ∀ connective : Connective, first ≠ connective.name.toList) (h : Keywordless second) :
    Keywordless (first ++ ' ' :: second) := by
  intro connective
  rw [Nesting.topWords_join (Nesting.run_plain start hp),
    Nesting.topWords_solid (Solid.of_not_mem hs), Nesting.levels_plain hp, List.singleton_append,
    List.mem_cons]
  refine not_or.mpr ⟨fun hw => hk connective ?_, h connective⟩
  have hn := congrArg (List.map Prod.fst) hw
  rw [Connective.word, List.map_map, List.map_map] at hn
  simpa [Function.comp_def] using hn.symm

end Keywordless

theorem not_mem_topWords_separator {connective other : Connective} (hne : other ≠ connective)
    (hr : start.run first = start) (hf : other.word ∉ topWords first)
    (hs : other.word ∉ topWords second) :
    other.word ∉ topWords (first ++ (connective.separator ++ second)) := by
  rw [topWords_separator connective hr, List.mem_append, List.mem_cons]
  exact not_or.mpr ⟨hf, not_or.mpr ⟨fun h => hne (Connective.word_injective h), hs⟩⟩

-- ---------------------------------------------------------------------------
-- Where a text is split
-- ---------------------------------------------------------------------------

theorem splitTopLevel_eq_self {separator : List Char}
    (h : ¬ (separator.map fun c => (c, true)) <:+: start.levels text) :
    splitTopLevel text separator = [text] := by
  rw [splitTopLevel, Text.cut_of_not_infix h, List.map_singleton, Nesting.map_fst_levels]

theorem splitTopLevel_of_no_word {connective : Connective}
    (h : connective.word ∉ (topWords text).tail) :
    splitTopLevel text connective.separator = [text] := by
  have hi : ¬ (connective.separator.map fun c => (c, true)) <:+: start.levels text := by
    intro hi
    rw [connective.separator_levels] at hi
    exact h (Text.mem_tail_cut_of_infix connective.space_not_mem_word
      (hi.trans (List.prefix_append _ _).isInfix))
  exact splitTopLevel_eq_self hi

theorem Keywordless.not_mem_tail (h : Keywordless text) (connective : Connective) :
    connective.word ∉ (topWords text).tail := fun hm => h connective (List.mem_of_mem_tail hm)

/-- The first part ends where the separator occurs first. -/
theorem splitTopLevel_append {connective : Connective} (hr : start.run first = start)
    (hi : ¬ connective.marks <:+: start.levels first ++ connective.marks.dropLast)
    (second : List Char) :
    splitTopLevel (first ++ (connective.separator ++ second)) connective.separator =
      first :: splitTopLevel second connective.separator := by
  have hw : start.levels (first ++ (connective.separator ++ second)) =
      start.levels first ++ (connective.marks ++ start.levels second) := by
    rw [Nesting.levels_append hr, Nesting.levels_append connective.run_separator,
      connective.levels_separator]
  have hc : Text.cut connective.marks (start.levels (first ++ (connective.separator ++ second))) =
      start.levels first :: Text.cut connective.marks (start.levels second) := by
    rw [hw, Text.cut_append connective.marks_ne_nil hi]
  show (Text.cut connective.marks _).map _ = _
  rw [hc, List.map_cons, Nesting.map_fst_levels]
  rfl

theorem splitTopLevel_separator {connective : Connective} (hr : start.run first = start)
    (h : connective.word ∉ (topWords first).tail) (second : List Char) :
    splitTopLevel (first ++ (connective.separator ++ second)) connective.separator =
      first :: splitTopLevel second connective.separator := by
  refine splitTopLevel_append hr ?_ second
  rw [Connective.marks, connective.separator_levels, ← List.cons_append, List.dropLast_concat]
  exact fun hi => h (Text.mem_tail_cut_of_infix connective.space_not_mem_word hi)

-- ---------------------------------------------------------------------------
-- Parts
-- ---------------------------------------------------------------------------

namespace Expr

theorem ofText_of_keywordless (h : Keywordless text) : ofText text = ofPart text := by
  rw [ofText_eq, splitTopLevel_of_no_word (h.not_mem_tail .or), List.map_singleton,
    splitTopLevel_of_no_word (h.not_mem_tail .and)]
  rfl

theorem ofPart_group (h : Balanced text) (hi : Text.trim text ≠ []) :
    ofPart ('(' :: (text ++ [')'])) = group (ofText (Text.trim text)) := by
  rw [ofPart, Text.trim_enclosed rfl rfl, unwrap?_group h hi]

theorem ofPart_leaf (hn : Text.Neat text) (hh : text.head? ≠ some '(') :
    ofPart text = leaf text := by
  rw [ofPart, hn.trim, unwrap?_of_head_ne hh]

end Expr

end RecordQuery
