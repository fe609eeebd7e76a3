import RecordQuery.Proofs.Filter.Scope
import RecordQuery.Proofs.Query.Comparison
import RecordQuery.Query.Mode

/-!
# Searched and structured texts

The mode of a query is chosen from the characters and words of its text as
written, and the expression is read from the normalised text. Both see the
same marks and keywords: a text without any of them is one leaf that states
no condition, so no expression is taken for words to search for.
-/

namespace RecordQuery

-- ---------------------------------------------------------------------------
-- Runs of word characters
-- ---------------------------------------------------------------------------

namespace Mode

open Text (isBlank isWord startsBlank words)

variable {text first second : List Char}

theorem wordRuns_eq (text : List Char) :
    wordRuns text = text.takeWhile isWord :: (wordRuns text).tail := by
  induction text with
  | nil => rfl
  | cons c rest ih =>
    rw [wordRuns, List.takeWhile_cons]
    split
    · rw [ih]
      rfl
    · rfl

theorem wordRuns_cons_break (h : isWord c = false) (rest : List Char) :
    wordRuns (c :: rest) = [] :: wordRuns rest := by
  rw [wordRuns, if_neg (by simp [h])]

theorem tail_wordRuns_cons (h : isWord c = true) (rest : List Char) :
    (wordRuns (c :: rest)).tail = (wordRuns rest).tail := by
  rw [wordRuns, if_pos h, wordRuns_eq rest]
  rfl

theorem wordRuns_append (h : isWord c = false) (first second : List Char) :
    wordRuns (first ++ c :: second) = wordRuns first ++ wordRuns second := by
  induction first with
  | nil => exact wordRuns_cons_break h second
  | cons x first ih =>
    rw [List.cons_append, wordRuns, wordRuns, ih]
    split
    · rw [wordRuns_eq first]
      rfl
    · rfl

-- ---------------------------------------------------------------------------
-- Normalising
-- ---------------------------------------------------------------------------

def hasKeyword (text : List Char) : Bool := (wordRuns text).any isKeyword

theorem hasKeyword_append (h : isWord c = false) (first second : List Char) :
    hasKeyword (first ++ c :: second) = (hasKeyword first || hasKeyword second) := by
  rw [hasKeyword, wordRuns_append h, List.any_append]
  rfl

theorem hasKeyword_cons_break (h : isWord c = false) (rest : List Char) :
    hasKeyword (c :: rest) = hasKeyword rest := hasKeyword_append h [] rest

theorem hasKeyword_trimStart (text : List Char) :
    hasKeyword (Text.trimStart text) = hasKeyword text := by
  induction text with
  | nil => rfl
  | cons c rest ih =>
    cases hc : isBlank c with
    | true =>
      rw [Text.trimStart_cons_blank hc, ih, hasKeyword_cons_break (Text.isWord_of_isBlank hc)]
    | false => rw [Text.trimStart_cons hc]

theorem hasKeyword_eq (text : List Char) :
    hasKeyword text =
      (isKeyword (text.takeWhile isWord) || (wordRuns text).tail.any isKeyword) := by
  rw [hasKeyword, wordRuns_eq, List.any_cons, List.tail_cons]

/-- The first run is the same, and the others hold a keyword or not alike. -/
structure SameRuns (first second : List Char) : Prop where
  head : first.takeWhile isWord = second.takeWhile isWord
  tail : (wordRuns first).tail.any isKeyword = (wordRuns second).tail.any isKeyword

theorem SameRuns.hasKeyword (h : SameRuns first second) : hasKeyword first = hasKeyword second := by
  rw [hasKeyword_eq, hasKeyword_eq, h.head, h.tail]

theorem SameRuns.cons (c : Char) (h : SameRuns first second) :
    SameRuns (c :: first) (c :: second) := by
  cases hc : isWord c with
  | true =>
    refine ⟨by rw [List.takeWhile_cons, List.takeWhile_cons, h.head], ?_⟩
    rw [tail_wordRuns_cons hc, tail_wordRuns_cons hc, h.tail]
  | false =>
    refine ⟨by simp [hc], ?_⟩
    rw [wordRuns_cons_break hc, wordRuns_cons_break hc]
    exact h.hasKeyword

theorem SameRuns.of_break (hf : first.takeWhile isWord = []) (hs : second.takeWhile isWord = [])
    (h : Mode.hasKeyword first = Mode.hasKeyword second) : SameRuns first second := by
  refine ⟨hf.trans hs.symm, ?_⟩
  rw [hasKeyword_eq, hasKeyword_eq, hf, hs] at h
  exact h

theorem takeWhile_startsBlank (h : startsBlank text = true) : text.takeWhile isWord = [] := by
  cases text with
  | nil => rfl
  | cons c rest => simp [Text.isWord_of_isBlank h]

/-- Normalising changes no run but empty ones, except for blanks in front. -/
theorem sameRuns_normalize (text : List Char) :
    hasKeyword (Text.normalize text) = hasKeyword text ∧
      (startsBlank text = false → SameRuns (Text.normalize text) text) := by
  induction text with
  | nil => exact ⟨rfl, fun _ => ⟨rfl, rfl⟩⟩
  | cons c rest ih =>
    cases hc : isBlank c with
    | true =>
      rw [Text.normalize_cons_blank hc, hasKeyword_cons_break (Text.isWord_of_isBlank hc)]
      exact ⟨ih.1, fun hs => by simp [hc] at hs⟩
    | false =>
      suffices h : SameRuns (Text.normalize (c :: rest)) (c :: rest) from ⟨h.hasKeyword, fun _ => h⟩
      cases hr : startsBlank rest with
      | true =>
        rw [Text.normalize_cons_end hc hr]
        refine .cons c ?_
        split
        · next hw =>
          have hn : Text.normalize rest = [] := by rw [Text.normalize, hw]; rfl
          exact .of_break rfl (takeWhile_startsBlank hr) (hn ▸ ih.1)
        · refine .of_break rfl (takeWhile_startsBlank hr) ?_
          rw [hasKeyword_cons_break rfl]
          exact ih.1
      | false =>
        cases rest with
        | nil =>
          rw [Text.normalize, Text.words_cons_end hc (.inl rfl)]
          exact ⟨rfl, rfl⟩
        | cons d rest =>
          rw [Text.normalize_cons_inner hc hr]
          exact .cons c (ih.2 hr)

theorem isMark_of_isBlank (h : isBlank c = true) : isMark c = false := by
  refine Bool.eq_false_iff.mpr fun hm => ?_
  have hn : "=!<>()".toList.all (fun mark => !isBlank mark) = true := rfl
  have hc := List.all_eq_true.mp hn c (List.contains_iff_mem.mp hm)
  rw [h] at hc
  cases hc

theorem any_isMark_normalize (text : List Char) :
    (Text.normalize text).any isMark = text.any isMark := by
  have hb {c : Char} (h : isMark c = true) : isBlank c = false := by
    refine Bool.eq_false_iff.mpr fun hc => ?_
    rw [isMark_of_isBlank hc] at h
    cases h
  rw [Bool.eq_iff_iff, List.any_eq_true, List.any_eq_true]
  constructor
  · rintro ⟨c, hc, hm⟩
    exact ⟨c, (Text.mem_normalize_iff (hb hm)).mp hc, hm⟩
  · rintro ⟨c, hc, hm⟩
    exact ⟨c, (Text.mem_normalize_iff (hb hm)).mpr hc, hm⟩

theorem isStructured_normalize (text : List Char) :
    isStructured (Text.normalize text) = isStructured text := by
  rw [isStructured, isStructured, any_isMark_normalize]
  exact congrArg (text.any isMark || ·) (sameRuns_normalize text).1

end Mode

-- ---------------------------------------------------------------------------
-- Texts without marks and keywords
-- ---------------------------------------------------------------------------

open Mode (isMark isStructured hasKeyword hasKeyword_append hasKeyword_trimStart)

section
variable {text : List Char}

theorem isMark_eq_false (h : isStructured text = false) : ∀ c ∈ text, isMark c = false := by
  have hm := (Bool.or_eq_false_iff.mp h).1
  simpa using hm

theorem hasKeyword_eq_false (h : isStructured text = false) : hasKeyword text = false :=
  (Bool.or_eq_false_iff.mp h).2

/-- A separator anywhere in a text makes its keyword a word of the text. -/
theorem hasKeyword_of_separator (connective : Connective) (h : connective.separator <:+: text) :
    hasKeyword text = true := by
  obtain ⟨first, second, rfl⟩ := h
  have hk : hasKeyword connective.name.toList = true := by cases connective <;> decide
  have he : first ++ connective.separator ++ second =
      first ++ ' ' :: (connective.name.toList ++ ' ' :: second) := by
    rw [connective.separator_eq]
    simp
  rw [he, hasKeyword_append rfl, hasKeyword_append rfl, hk, Bool.true_or, Bool.or_true]

theorem splitTopLevel_of_no_keyword (h : hasKeyword text = false) (connective : Connective) :
    splitTopLevel text connective.separator = [text] := by
  have hi : ¬ (connective.separator.map fun c => (c, true)) <:+: Nesting.start.levels text := by
    intro hi
    have ht := hi.map Prod.fst
    rw [Nesting.map_fst_levels, List.map_map] at ht
    rw [hasKeyword_of_separator connective (by simpa [Function.comp_def] using ht)] at h
    cases h
  exact splitTopLevel_eq_self hi

theorem Expr.ofText_unstructured (hn : Text.Neat text) (h : isStructured text = false) :
    ofText text = leaf text := by
  have hh : text.head? ≠ some '(' := by
    intro hh
    have hm := isMark_eq_false h '(' (List.mem_of_mem_head? hh)
    cases hm
  rw [ofText_eq, splitTopLevel_of_no_keyword (hasKeyword_eq_false h), List.map_singleton,
    splitTopLevel_of_no_keyword (hasKeyword_eq_false h), List.map_singleton, ofPart_leaf hn hh]
  rfl

namespace Condition

theorem hasKeyword_of_afterBlanks? {rest : List Char} (h : afterBlanks? text = some rest)
    (first : List Char) : hasKeyword (first ++ text) = (hasKeyword first || hasKeyword rest) := by
  cases text with
  | nil => cases h
  | cons c tail =>
    rw [afterBlanks?] at h
    split at h
    · next hc =>
      cases h
      rw [hasKeyword_append (Text.isWord_of_isBlank hc), hasKeyword_trimStart]
    · cases h

theorem membership?_eq_none (h : hasKeyword text = false) : membership? text = none := by
  refine Option.eq_none_iff_forall_not_mem.mpr fun condition hc => ?_
  rw [Option.mem_def] at hc
  simp only [membership?, Option.bind_eq_bind, Option.bind_eq_some_iff] at hc
  obtain ⟨⟨name, afterName⟩, hn, afterBlanks, hb, hc⟩ := hc
  split at hc
  · next afterIn =>
    simp only [Option.bind_eq_some_iff] at hc
    obtain ⟨list, hl, -⟩ := hc
    have hk := hasKeyword_of_afterBlanks? hl "IN".toList
    rw [(eq_of_nameOf? hn).2.2, hasKeyword_of_afterBlanks? hb] at h
    rw [show 'I' :: 'N' :: afterIn = "IN".toList ++ afterIn from rfl, hk,
      show hasKeyword "IN".toList = true from rfl] at h
    simp at h
  · cases hc

theorem comparison?_eq_none (h : ∀ c ∈ text, isMark c = false) : comparison? text = none := by
  refine Option.eq_none_iff_forall_not_mem.mpr fun ⟨field, operator, literal⟩ hc => ?_
  obtain ⟨name, second, third, comparison, -, -, -, -, -, -, rfl⟩ := eq_of_comparison? hc
  -- No operator is without a mark.
  have hm : ∃ c ∈ comparison.operator.name.toList, isMark c = true := by
    cases comparison <;> exact List.any_eq_true.mp rfl
  obtain ⟨c, hc, hm⟩ := hm
  rw [h c (by simp [hc])] at hm
  cases hm

end Condition

theorem Leaf.read_unstructured (hn : Text.Neat text) (h : isStructured text = false) :
    (∃ verdict, read text = .ok (literal verdict)) ∨
      read text = .ok (invalid (String.ofList text)) := by
  have hr : Condition.read? text = .ok none := by
    simp only [Condition.read?, hn.trim,
      Condition.membership?_eq_none (hasKeyword_eq_false h),
      Condition.comparison?_eq_none (isMark_eq_false h)]
  simp only [read, hr]
  split
  · exact .inl ⟨true, rfl⟩
  · split
    · exact .inl ⟨false, rfl⟩
    · split
      · exact .inr rfl
      · exact .inr rfl

end

-- ---------------------------------------------------------------------------
-- Filters
-- ---------------------------------------------------------------------------

namespace Filter

def isExpression : Filter → Bool
  | leaf (.condition _) => true
  | leaf _ => false
  | chain _ _ => true
  | reference _ _ _ => true
  | scope body groups => body.isExpression || !groups.isEmpty

end Filter

namespace Mode

theorem ofQuery_eq_search {query : String} :
    ofQuery query = search ↔
      Text.isBlankText query.toList = false ∧ isStructured query.toList = false := by
  rw [ofQuery]
  cases Text.isBlankText query.toList <;> cases isStructured query.toList <;> simp

theorem ofQuery_eq_empty {query : String} :
    ofQuery query = empty ↔ Text.isBlankText query.toList = true := by
  rw [ofQuery]
  cases Text.isBlankText query.toList <;> cases isStructured query.toList <;> simp

theorem exists_leaf {query : String} (h : ofQuery query = search) :
    ∃ leaf, Filter.parse query.toList = .ok (.leaf leaf) ∧
      ((∃ verdict, leaf = .literal verdict) ∨
        leaf = .invalid (String.ofList (Text.normalize query.toList))) := by
  obtain ⟨hb, hs⟩ := ofQuery_eq_search.mp h
  have hn := Text.neat_normalize query.toList
  rw [← isStructured_normalize] at hs
  have hp {leaf : Leaf} (hr : Leaf.read (Text.normalize query.toList) = .ok leaf) :
      Filter.parse query.toList = .ok (.leaf leaf) := by
    rw [Filter.parse_of_ne_nil (Text.normalize_ne_nil hb), Filter.parseGroup,
      Expr.ofText_unstructured hn hs, Expr.traverse, hr]
    rfl
  rcases Leaf.read_unstructured hn hs with ⟨verdict, hr⟩ | hr
  · exact ⟨_, hp hr, .inl ⟨verdict, rfl⟩⟩
  · exact ⟨_, hp hr, .inr rfl⟩

/-- A text that is searched is read as one leaf which states no condition,
and a text that is read as anything else, or as anything that holds more, is
structured. -/
theorem agrees_with_parse (query : String) :
    (ofQuery query = search → ∃ leaf, Filter.parse query.toList = .ok (.leaf leaf) ∧
      ((∃ verdict, leaf = .literal verdict) ∨
        leaf = .invalid (String.ofList (Text.normalize query.toList)))) ∧
    ∀ filter, Filter.parse query.toList = .ok filter → filter.isExpression = true →
      ofQuery query = structured := by
  refine ⟨exists_leaf, fun filter hp he => ?_⟩
  cases hm : ofQuery query with
  | empty =>
    rw [Filter.parse, Text.normalize_blank (ofQuery_eq_empty.mp hm)] at hp
    obtain rfl := Except.ok.inj hp
    cases he
  | structured => rfl
  | search =>
    obtain ⟨leaf, hl, hk⟩ := exists_leaf hm
    obtain rfl := Except.ok.inj (hp.symm.trans hl)
    rcases hk with ⟨verdict, rfl⟩ | rfl <;> cases he

/-- Keywords inside longer words are none. -/
theorem orange_band :
    ofQuery "orange  band" = search ∧
    (∃ leaf, Filter.parse "orange  band".toList = .ok (.leaf leaf) ∧
      ((∃ verdict, leaf = .literal verdict) ∨ leaf = .invalid "orange band")) ∧
    ofQuery "true OR (x)" = structured :=
  ⟨by decide, (agrees_with_parse "orange  band").1 (by decide),
    (agrees_with_parse "true OR (x)").2 _ Filter.parse_true_or_group rfl⟩

end Mode

end RecordQuery
