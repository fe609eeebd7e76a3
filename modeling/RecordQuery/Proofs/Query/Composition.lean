import RecordQuery.Engine
import RecordQuery.Proofs.Filter.Verdict
import RecordQuery.Proofs.Query.Splitting
import RecordQuery.Proofs.Text.Blank

/-!
# Composing queries

Balanced queries can be put in parentheses and joined. Parentheses change
nothing, and a pair has a verdict exactly if both queries have one: what the
first query says never hides a failure of the second.
-/

namespace RecordQuery

open Nesting (start Balanced Solid topWords)

-- ---------------------------------------------------------------------------
-- White space in balanced texts
-- ---------------------------------------------------------------------------

namespace Nesting

theorem run_space (state : Nesting) (text : List Char) :
    state.run (' ' :: text) = state.run text := by
  rw [run_cons, step_plain state rfl]

theorem run_squeeze (state : Nesting) (text : List Char) :
    state.run (Text.squeeze text) = state.run text := by
  induction text generalizing state with
  | nil => rfl
  | cons c rest ih =>
    rw [Text.squeeze, run_cons]
    split
    · next hc =>
      rw [step_plain state (isPlain_of_isBlank hc)]
      split
      · exact ih state
      · exact (run_space state _).trans (ih state)
    · exact ih (state.step c)

/-- Squeezing passes through no other states. -/
theorem exists_prefix_of_squeeze (state : Nesting) {text before : List Char}
    (h : before <+: Text.squeeze text) :
    ∃ other, other <+: text ∧ state.run other = state.run before := by
  induction text generalizing state before with
  | nil => exact ⟨before, h, rfl⟩
  | cons c rest ih =>
    rw [Text.squeeze] at h
    split at h
    · next hc =>
      have hs := step_plain state (isPlain_of_isBlank hc)
      split at h
      · obtain ⟨other, ho, hr⟩ := ih state h
        exact ⟨c :: other, List.cons_prefix_cons.mpr ⟨rfl, ho⟩, by rw [run_cons, hs, hr]⟩
      · rcases List.prefix_cons_iff.mp h with rfl | ⟨tail, rfl, ht⟩
        · exact ⟨[], List.nil_prefix, rfl⟩
        · obtain ⟨other, ho, hr⟩ := ih state ht
          exact ⟨c :: other, List.cons_prefix_cons.mpr ⟨rfl, ho⟩, by rw [run_cons, hs, hr, run_space]⟩
    · rcases List.prefix_cons_iff.mp h with rfl | ⟨tail, rfl, ht⟩
      · exact ⟨[], List.nil_prefix, rfl⟩
      · obtain ⟨other, ho, hr⟩ := ih (state.step c) ht
        exact ⟨c :: other, List.cons_prefix_cons.mpr ⟨rfl, ho⟩, hr⟩

theorem Balanced.squeeze (h : Balanced text) : Balanced (Text.squeeze text) := by
  refine .of_run (by rw [run_squeeze, h.run]) fun before hp => ?_
  obtain ⟨other, ho, hr⟩ := exists_prefix_of_squeeze start hp
  rw [← hr]
  exact h.nonneg other ho

end Nesting

-- ---------------------------------------------------------------------------
-- Groups and pairs of groups
-- ---------------------------------------------------------------------------

theorem normalize_group (text : List Char) :
    Text.normalize ('(' :: (text ++ [')'])) = '(' :: (Text.squeeze text ++ [')']) := by
  rw [Text.normalize_eq, Text.squeeze_cons rfl, Text.squeeze_append rfl]
  exact Text.trim_enclosed rfl rfl (Text.squeeze text)

theorem normalize_pair (connective : Connective) (first second : List Char) :
    Text.normalize
        ('(' :: (first ++ [')']) ++ (connective.separator ++ '(' :: (second ++ [')']))) =
      '(' :: (Text.squeeze first ++ [')']) ++
        (connective.separator ++ '(' :: (Text.squeeze second ++ [')'])) := by
  have hs : Text.squeeze connective.separator = connective.separator := by
    cases connective <;> rfl
  have hi : '(' :: (first ++ [')']) ++ (connective.separator ++ '(' :: (second ++ [')'])) =
      '(' :: (first ++ ')' :: (connective.separator ++ '(' :: second) ++ [')']) := by
    simp
  rw [hi, normalize_group, Text.squeeze_append rfl, Text.squeeze_append rfl, hs]
  simp

section
variable {first second : List Char}

theorem ofPart_squeezed (h : Balanced first) (hb : Text.isBlankText first = false) :
    Expr.ofPart ('(' :: (Text.squeeze first ++ [')'])) =
      .group (Expr.ofText (Text.normalize first)) := by
  have hn : Text.trim (Text.squeeze first) ≠ [] := by
    rw [← Text.normalize_eq]
    exact Text.normalize_ne_nil hb
  rw [Expr.ofPart_group h.squeeze hn, Text.normalize_eq]

theorem ofText_squeezed (h : Balanced first) (hb : Text.isBlankText first = false) :
    Expr.ofText ('(' :: (Text.squeeze first ++ [')'])) =
      .group (Expr.ofText (Text.normalize first)) := by
  rw [Expr.ofText_of_keywordless (.group h.squeeze), ofPart_squeezed h hb]

theorem ofText_pair (hf : Balanced first) (hs : Balanced second)
    (hfb : Text.isBlankText first = false) (hsb : Text.isBlankText second = false)
    (connective : Connective) :
    Expr.ofText ('(' :: (Text.squeeze first ++ [')']) ++
        (connective.separator ++ '(' :: (Text.squeeze second ++ [')']))) =
      .join connective [.group (Expr.ofText (Text.normalize first)),
        .group (Expr.ofText (Text.normalize second))] := by
  have hr := hf.squeeze.group.run
  have hkf := Keywordless.group hf.squeeze
  have hks := Keywordless.group hs.squeeze
  have ht := splitTopLevel_separator hr (hkf.not_mem_tail connective)
    ('(' :: (Text.squeeze second ++ [')']))
  rw [splitTopLevel_of_no_word (hks.not_mem_tail connective)] at ht
  rw [Expr.ofText_eq]
  cases connective with
  | or =>
    rw [ht, List.map_cons, List.map_singleton, splitTopLevel_of_no_word (hkf.not_mem_tail .and),
      splitTopLevel_of_no_word (hks.not_mem_tail .and), List.map_singleton, List.map_singleton,
      ofPart_squeezed hf hfb, ofPart_squeezed hs hsb]
    rfl
  | and =>
    -- No OR stands between the groups, so the pair is one clause.
    have hw : Connective.or.word ∉ topWords ('(' :: (Text.squeeze first ++ [')']) ++
        (Connective.and.separator ++ '(' :: (Text.squeeze second ++ [')']))) :=
      not_mem_topWords_separator (by decide) hr (hkf .or) (hks .or)
    rw [splitTopLevel_of_no_word fun hm => hw (List.mem_of_mem_tail hm), List.map_singleton, ht,
      List.map_cons, List.map_singleton, ofPart_squeezed hf hfb, ofPart_squeezed hs hsb]
    rfl

end

-- ---------------------------------------------------------------------------
-- Queries
-- ---------------------------------------------------------------------------

def Expr.ofQuery (query : String) : Except Failure (Expr Leaf) :=
  (Expr.ofText (Text.normalize query.toList)).traverse Leaf.read

theorem ofQuery_group {p : String} (hb : Text.isBlankText p.toList = false)
    (h : Balanced p.toList) :
    Expr.ofQuery ("(" ++ p ++ ")") = (Expr.ofQuery p).map .group := by
  have ht : ("(" ++ p ++ ")").toList = '(' :: (p.toList ++ [')']) := by simp
  rw [Expr.ofQuery, Expr.ofQuery, ht, normalize_group, ofText_squeezed h hb, Expr.traverse]
  cases (Expr.ofText (Text.normalize p.toList)).traverse Leaf.read <;> rfl

def pairText (connective : Connective) (p q : String) : String :=
  "(" ++ p ++ ") " ++ connective.name ++ " (" ++ q ++ ")"

theorem toList_pairText (connective : Connective) (p q : String) :
    (pairText connective p q).toList =
      '(' :: (p.toList ++ [')']) ++ (connective.separator ++ '(' :: (q.toList ++ [')'])) := by
  simp [pairText, connective.separator_eq]

theorem ofQuery_pair {p q : String} (hpb : Text.isBlankText p.toList = false)
    (hp : Balanced p.toList) (hqb : Text.isBlankText q.toList = false) (hq : Balanced q.toList)
    (connective : Connective) :
    Expr.ofQuery (pairText connective p q) = (do
      let first ← Expr.ofQuery p
      let second ← Expr.ofQuery q
      .ok (.join connective [.group first, .group second])) := by
  simp only [Expr.ofQuery, toList_pairText, normalize_pair, ofText_pair hp hq hpb hqb,
    Expr.traverse, Expr.traverseParts]
  cases (Expr.ofText (Text.normalize p.toList)).traverse Leaf.read with
  | error failure => rfl
  | ok first => cases (Expr.ofText (Text.normalize q.toList)).traverse Leaf.read <;> rfl

namespace Record

theorem satisfies_eq {query : String} (h : Text.isBlankText query.toList = false)
    (record : Record) :
    record.satisfies query = (do (← Expr.ofQuery query).evaluate record) := by
  rw [satisfies, if_neg (by simp [h]), Filter.parse_of_ne_nil (Text.normalize_ne_nil h),
    Filter.parseGroup, Expr.ofQuery]
  cases (Expr.ofText (Text.normalize query.toList)).traverse Leaf.read with
  | error failure => rfl
  | ok expr => exact expr.apply_ofExpr record

section
variable {p q : String} (record : Record)

theorem satisfies_group (hb : Text.isBlankText p.toList = false) (h : Balanced p.toList) :
    record.satisfies ("(" ++ p ++ ")") = record.satisfies p := by
  have hn : Text.isBlankText ("(" ++ p ++ ")").toList = false := by
    simp [Text.isBlankText, show Text.isBlank '(' = false from rfl]
  rw [satisfies_eq hn, satisfies_eq hb, ofQuery_group hb h]
  cases Expr.ofQuery p with
  | error failure => rfl
  | ok expr => exact expr.evaluate_group record

theorem satisfies_pair (hpb : Text.isBlankText p.toList = false) (hp : Balanced p.toList)
    (hqb : Text.isBlankText q.toList = false) (hq : Balanced q.toList) (connective : Connective)
    (verdict : Bool) :
    record.satisfies (pairText connective p q) = .ok verdict ↔
      ∃ x y, record.satisfies p = .ok x ∧ record.satisfies q = .ok y ∧
        verdict = connective.combine x y := by
  have hn : Text.isBlankText (pairText connective p q).toList = false := by
    simp [Text.isBlankText, toList_pairText, show Text.isBlank '(' = false from rfl]
  rw [satisfies_eq hn, satisfies_eq hpb, satisfies_eq hqb, ofQuery_pair hpb hp hqb hq]
  cases Expr.ofQuery p with
  | error failure =>
    refine ⟨fun h => (by cases h), ?_⟩
    rintro ⟨x, y, hx, -⟩
    cases hx
  | ok first =>
    cases Expr.ofQuery q with
    | error failure =>
      refine ⟨fun h => (by cases h), ?_⟩
      rintro ⟨x, y, -, hy, -⟩
      cases hy
    | ok second => exact Expr.evaluate_pair

/-- Balanced queries compose: parentheses change nothing, and a pair of them
has a verdict exactly if both have one, so it fails if one of them does,
whatever the other says. -/
theorem satisfies_composed (hpb : Text.isBlankText p.toList = false) (hp : Balanced p.toList)
    (hqb : Text.isBlankText q.toList = false) (hq : Balanced q.toList) :
    record.satisfies ("(" ++ p ++ ")") = record.satisfies p ∧
    ∀ connective : Connective,
      (∀ verdict, record.satisfies (pairText connective p q) = .ok verdict ↔
        ∃ x y, record.satisfies p = .ok x ∧ record.satisfies q = .ok y ∧
          verdict = connective.combine x y) ∧
      ((∃ failure, record.satisfies (pairText connective p q) = .error failure) ↔
        (∃ failure, record.satisfies p = .error failure) ∨
          ∃ failure, record.satisfies q = .error failure) := by
  refine ⟨satisfies_group record hpb hp, fun connective => ⟨?_, ?_⟩⟩
  · exact satisfies_pair record hpb hp hqb hq connective
  · rw [Attempt.fails_iff, Attempt.fails_iff, Attempt.fails_iff,
      ← Classical.not_and_iff_not_or_not, not_congr]
    constructor
    · rintro ⟨verdict, hv⟩
      obtain ⟨x, y, hx, hy, -⟩ := (satisfies_pair record hpb hp hqb hq connective verdict).mp hv
      exact ⟨⟨x, hx⟩, y, hy⟩
    · rintro ⟨⟨x, hx⟩, y, hy⟩
      exact ⟨_, (satisfies_pair record hpb hp hqb hq connective _).mpr ⟨x, y, hx, hy, rfl⟩⟩

end

/-- The second query fails, although the first settles the pair. -/
theorem satisfies_true_or_invalid :
    Text.isBlankText "true".toList = false ∧ Balanced "true".toList ∧
      Text.isBlankText "x".toList = false ∧ Balanced "x".toList ∧
      ∃ failure, Record.satisfies [] (pairText .or "true" "x") = .error failure := by
  have hp : Balanced "true".toList := .plain (List.all_eq_true.mp rfl)
  have hq : Balanced "x".toList := .plain (List.all_eq_true.mp rfl)
  have hx : Record.satisfies [] "x" = .error (.invalidCondition "x") := by
    rw [satisfies_eq rfl, Expr.ofQuery, Expr.ofText_eq]
    rfl
  refine ⟨rfl, hp, rfl, hq, ?_⟩
  exact ((satisfies_composed [] rfl hp rfl hq).2 .or).2.mpr (.inr ⟨_, hx⟩)

end Record

end RecordQuery
