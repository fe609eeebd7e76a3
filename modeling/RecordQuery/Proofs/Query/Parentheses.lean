import RecordQuery.Proofs.Filter.Numbering
import RecordQuery.Proofs.Query.Blame
import RecordQuery.Proofs.Query.Composition
import RecordQuery.Proofs.Query.Quotation

/-!
# Parentheses

No stray parenthesis is accepted. A compiled query without invalid conjuncts
has a group for every parenthesis that opens outside quotes, and these
parentheses close in order. Splitting, trimming and opening a group restart
the scan of quotes, but only where the scan of the whole stands at its start
too, so the parentheses of the parts are those of the whole in a row.
-/

namespace RecordQuery

open Nesting (start)

-- ---------------------------------------------------------------------------
-- Parentheses outside quotes
-- ---------------------------------------------------------------------------

def isParenthesis (c : Char) : Bool := c == '(' || c == ')'

def parenthesesFrom (inQuotes : Bool) : List Char → List Char
  | [] => []
  | c :: rest =>
    let others := parenthesesFrom (inQuotes ^^ (c == '"')) rest
    if !inQuotes && isParenthesis c then c :: others else others

def parentheses (text : List Char) : List Char := parenthesesFrom false text

structure Matched (marks : List Char) : Prop where
  closed : marks.count ')' = marks.count '('
  opened : ∀ before, before <+: marks → before.count ')' ≤ before.count '('

namespace Matched

variable {first second marks : List Char}

theorem nil : Matched [] where
  closed := rfl
  opened before hb := by rw [List.prefix_nil.mp hb]; exact Nat.le_refl _

theorem append (hf : Matched first) (hs : Matched second) : Matched (first ++ second) where
  closed := by rw [List.count_append, List.count_append, hf.closed, hs.closed]
  opened before hb := by
    rcases List.prefix_or_prefix_of_prefix hb (List.prefix_append first second) with
      h | ⟨rest, rfl⟩
    · exact hf.opened before h
    · have hr := hs.opened rest ((List.prefix_append_right_inj first).mp hb)
      have := hf.closed
      rw [List.count_append, List.count_append]
      omega

theorem enclosed (h : Matched marks) : Matched ('(' :: (marks ++ [')'])) where
  closed := by
    have := h.closed
    simp only [List.count_cons, List.count_append, List.count_nil, beq_self_eq_true, ↓reduceIte,
      Char.reduceBEq, Bool.false_eq_true]
    omega
  opened before hp := by
    cases before with
    | nil => exact Nat.le_refl _
    | cons c before =>
      obtain ⟨rfl, hb⟩ := List.cons_prefix_cons.mp hp
      rcases List.prefix_concat_iff.mp hb with rfl | hb
      · have := h.closed
        simp only [List.count_cons, List.count_append, List.count_nil, beq_self_eq_true,
          ↓reduceIte, Char.reduceBEq, Bool.false_eq_true]
        omega
      · have := h.opened before hb
        simp only [List.count_cons, beq_self_eq_true, ↓reduceIte, Char.reduceBEq,
          Bool.false_eq_true]
        omega

end Matched

-- ---------------------------------------------------------------------------
-- Pieces of a text
-- ---------------------------------------------------------------------------

theorem parenthesesFrom_append (state : Nesting) (first second : List Char) :
    parenthesesFrom state.inQuotes (first ++ second) =
      parenthesesFrom state.inQuotes first ++ parenthesesFrom (state.run first).inQuotes second := by
  induction first generalizing state with
  | nil => rfl
  | cons c first ih =>
    rw [List.cons_append, parenthesesFrom, parenthesesFrom, ← Nesting.inQuotes_step, ih]
    split <;> rfl

theorem parenthesesFrom_cons_plain (inQuotes : Bool) (h : Nesting.isPlain c = true)
    (text : List Char) : parenthesesFrom inQuotes (c :: text) = parenthesesFrom inQuotes text := by
  simp only [Nesting.isPlain, Bool.and_eq_true, bne_iff_ne] at h
  obtain ⟨⟨hq, ho⟩, hc⟩ := h
  simp [parenthesesFrom, isParenthesis, beq_false_of_ne hq, ho, hc]

theorem parenthesesFrom_blank (inQuotes : Bool) (h : Text.isBlank c = true) (text : List Char) :
    parenthesesFrom inQuotes (c :: text) = parenthesesFrom inQuotes text :=
  parenthesesFrom_cons_plain inQuotes (Nesting.isPlain_of_isBlank h) text

theorem parentheses_plain (h : ∀ c ∈ text, Nesting.isPlain c = true) : parentheses text = [] := by
  induction text with
  | nil => rfl
  | cons c text ih =>
    obtain ⟨hc, ht⟩ := List.forall_mem_cons.mp h
    exact (parenthesesFrom_cons_plain false hc text).trans (ih ht)

theorem parentheses_append (h : (start.run first).inQuotes = false) (second : List Char) :
    parentheses (first ++ second) = parentheses first ++ parentheses second := by
  have ha := parenthesesFrom_append start first second
  rwa [h] at ha

theorem parentheses_join (connective : Connective) (h : start.run head = start)
    (rest : List Char) :
    parentheses (head ++ (connective.separator ++ rest)) = parentheses head ++ parentheses rest := by
  have hs : (start.run connective.separator).inQuotes = false := by
    rw [connective.run_separator]
    rfl
  rw [parentheses_append (by rw [h]; rfl), parentheses_append hs,
    parentheses_plain connective.plain_separator, List.nil_append]

theorem parenthesesFrom_trimStart (inQuotes : Bool) (text : List Char) :
    parenthesesFrom inQuotes (Text.trimStart text) = parenthesesFrom inQuotes text := by
  induction text with
  | nil => rfl
  | cons c rest ih =>
    cases hc : Text.isBlank c with
    | true => rw [Text.trimStart_cons_blank hc, parenthesesFrom_blank inQuotes hc, ih]
    | false => rw [Text.trimStart_cons hc]

theorem parenthesesFrom_trimEnd (inQuotes : Bool) (text : List Char) :
    parenthesesFrom inQuotes (Text.trimEnd text) = parenthesesFrom inQuotes text := by
  induction text generalizing inQuotes with
  | nil => rfl
  | cons c rest ih =>
    rw [Text.trimEnd]
    split
    · next hr =>
      rw [hr] at ih
      split
      · next hc => rw [parenthesesFrom_blank inQuotes hc, ← ih]
      · rw [parenthesesFrom, ih, parenthesesFrom]
    · rw [parenthesesFrom, ih, parenthesesFrom]

theorem parentheses_trim (text : List Char) : parentheses (Text.trim text) = parentheses text :=
  (parenthesesFrom_trimEnd false _).trans (parenthesesFrom_trimStart false text)

theorem parenthesesFrom_squeeze (inQuotes : Bool) (text : List Char) :
    parenthesesFrom inQuotes (Text.squeeze text) = parenthesesFrom inQuotes text := by
  induction text generalizing inQuotes with
  | nil => rfl
  | cons c rest ih =>
    rw [Text.squeeze]
    split
    · next hc =>
      rw [parenthesesFrom_blank inQuotes hc]
      split
      · exact ih inQuotes
      · exact (parenthesesFrom_blank inQuotes rfl _).trans (ih inQuotes)
    · rw [parenthesesFrom, parenthesesFrom, ih]

theorem parentheses_normalize (text : List Char) :
    parentheses (Text.normalize text) = parentheses text := by
  rw [Text.normalize_eq, parentheses_trim]
  exact parenthesesFrom_squeeze false text

theorem parenthesesFrom_marked (state : Nesting) (text : List Char) :
    parenthesesFrom state.inQuotes text = ((state.marked text).filter fun mark =>
      mark.2.isSome && isParenthesis mark.1).map Prod.fst := by
  induction text generalizing state with
  | nil => rfl
  | cons c rest ih =>
    rw [parenthesesFrom, ← Nesting.inQuotes_step, ih, Nesting.marked, List.filter_cons]
    have hd : (!state.inQuotes && isParenthesis c) =
        ((state.depthAt? c).isSome && isParenthesis c) := by
      rw [Nesting.depthAt?]
      cases hq : c == '"' with
      | true => simp [isParenthesis, beq_iff_eq.mp hq]
      | false => cases state.inQuotes <;> rfl
    rw [hd]
    split <;> rfl

theorem parentheses_of_hasParentheses (h : hasParentheses text = false) : parentheses text = [] := by
  have hf : ((start.marked text).filter fun mark => mark.2.isSome && isParenthesis mark.1) = [] :=
    List.filter_eq_nil_iff.mpr (List.any_eq_false.mp h)
  have hm := parenthesesFrom_marked start text
  rw [hf] at hm
  exact hm

theorem mem_of_mem_parenthesesFrom {inQuotes : Bool} (h : c ∈ parenthesesFrom inQuotes text) :
    c ∈ text ∧ isParenthesis c = true := by
  induction text generalizing inQuotes with
  | nil => cases h
  | cons d rest ih =>
    rw [parenthesesFrom] at h
    have hr (h : c ∈ parenthesesFrom (inQuotes ^^ (d == '"')) rest) :
        c ∈ d :: rest ∧ isParenthesis c = true :=
      (ih h).imp_left (List.mem_cons_of_mem d)
    split at h
    · next hd =>
      rcases List.mem_cons.mp h with rfl | h
      · exact ⟨List.mem_cons_self, (Bool.and_eq_true_iff.mp hd).2⟩
      · exact hr h
    · exact hr h

theorem exists_of_isEnclosed (h : isEnclosed text = true) :
    ∃ inside, text = '(' :: (inside ++ [')']) ∧ (start.run ('(' :: inside)).inQuotes = false := by
  obtain ⟨hh, hl⟩ := isEnclosed_ends h
  cases text with
  | nil => cases hh
  | cons c rest =>
    obtain rfl : c = '(' := Option.some.inj hh
    rcases List.eq_nil_or_concat rest with rfl | ⟨inside, d, rfl⟩
    · cases hl
    · rw [List.concat_eq_append] at hl ⊢
      rw [← List.cons_append, Nesting.marked_append, List.getLast?_append] at hl
      obtain ⟨rfl, hd⟩ := Prod.mk.inj (Option.some.inj hl)
      refine ⟨inside, rfl, ?_⟩
      cases hq : (start.run ('(' :: inside)).inQuotes with
      | false => rfl
      | true =>
        rw [Nesting.depthAt?, hq] at hd
        cases hd

theorem parentheses_group (h : isEnclosed text = true) :
    parentheses text = '(' :: (parentheses text.tail.dropLast ++ [')']) := by
  obtain ⟨inside, rfl, hq⟩ := exists_of_isEnclosed h
  rw [List.tail_cons, List.dropLast_concat, ← List.cons_append, parentheses_append hq]
  rfl

-- ---------------------------------------------------------------------------
-- Expressions
-- ---------------------------------------------------------------------------

namespace Expr

variable {α β : Type}

theorem groupCount_joined (connective : Connective) (parts : List (Expr α)) :
    (joined connective parts).groupCount = groupCountOfParts parts := by
  unfold joined
  split
  · next part => rw [groupCountOfParts, groupCountOfParts, Nat.add_zero]
  · rfl

mutual
theorem groupCount_traverse {read : α → Except Failure β} : (expr : Expr α) →
    {result : Expr β} → expr.traverse read = .ok result → result.groupCount = expr.groupCount
  | leaf content, _, h => by
    obtain ⟨_, -, h⟩ := Attempt.bind_ok.mp h
    cases h
    rfl
  | join connective parts, _, h => by
    obtain ⟨results, hr, h⟩ := Attempt.bind_ok.mp h
    cases h
    exact groupCount_traverseParts parts hr
  | group body, _, h => by
    obtain ⟨result, hr, h⟩ := Attempt.bind_ok.mp h
    cases h
    rw [groupCount, groupCount, body.groupCount_traverse hr]
theorem groupCount_traverseParts {read : α → Except Failure β} : (parts : List (Expr α)) →
    {results : List (Expr β)} → traverseParts read parts = .ok results →
      groupCountOfParts results = groupCountOfParts parts
  | [], _, h => by
    cases h
    rfl
  | part :: rest, _, h => by
    obtain ⟨first, hf, h⟩ := Attempt.bind_ok.mp h
    obtain ⟨others, ho, h⟩ := Attempt.bind_ok.mp h
    cases h
    rw [groupCountOfParts, groupCountOfParts, part.groupCount_traverse hf,
      groupCount_traverseParts rest ho]
end

/-- The parentheses match, and every one that opens belongs to a group. -/
structure Accounts (expr : Expr α) (marks : List Char) : Prop where
  matched : Matched marks
  groups : expr.groupCount = marks.count '('

theorem Accounts.joined {read : List Char → Expr α} (connective : Connective) (text : List Char)
    (h : ∀ part ∈ splitTopLevel text connective.separator, (read part).Accounts (parentheses part)) :
    (joined connective ((splitTopLevel text connective.separator).map read)).Accounts
      (parentheses text) := by
  induction text using connective.split_induction with
  | last text hn =>
    rw [splitTopLevel_eq_self hn] at h ⊢
    exact h text (List.mem_singleton.mpr rfl)
  | next head rest hr _ hs ih =>
    rw [hs] at h ⊢
    obtain ⟨hh, ht⟩ := List.forall_mem_cons.mp h
    have ht := ih ht
    rw [parentheses_join connective hr]
    refine ⟨hh.matched.append ht.matched, ?_⟩
    rw [groupCount_joined, List.map_cons, groupCountOfParts, ← groupCount_joined connective,
      hh.groups, ht.groups, List.count_append]

theorem Accounts.ofPart {part : List Char}
    (ih : ∀ inner, unwrap? (Text.trim part) = some inner →
      (∀ written ∈ (ofText inner).leaves, parentheses written = []) →
        (ofText inner).Accounts (parentheses inner))
    (h : ∀ written ∈ (ofPart part).leaves, parentheses written = []) :
    (ofPart part).Accounts (parentheses part) := by
  cases hu : unwrap? (Text.trim part) with
  | none =>
    rw [Expr.ofPart, hu] at h ⊢
    have hp : parentheses part = [] := h part (List.mem_singleton.mpr rfl)
    rw [hp]
    exact ⟨.nil, rfl⟩
  | some inner =>
    rw [Expr.ofPart, hu] at h ⊢
    obtain ⟨he, hi, -⟩ := eq_of_unwrap? hu
    have hp : parentheses part = '(' :: (parentheses inner ++ [')']) := by
      rw [← parentheses_trim part, parentheses_group he, hi, parentheses_trim]
    have hb := ih inner hu h
    rw [hp]
    refine ⟨hb.matched.enclosed, ?_⟩
    rw [groupCount, hb.groups]
    simp [List.count_append]

/-- If no leaf holds a parenthesis, all of them belong to groups. -/
theorem accounts_ofText (text : List Char)
    (h : ∀ written ∈ (ofText text).leaves, parentheses written = []) :
    (ofText text).Accounts (parentheses text) := by
  induction text using ofText.induct with
  | case1 text ih =>
    rw [ofText_eq]
    refine .joined .or text fun clause hc => .joined .and clause fun part hp => ?_
    refine .ofPart (ih clause hc part hp) fun written hw => ?_
    exact h written (mem_leaves_ofText.mpr ⟨clause, hc, part, hp, hw⟩)

end Expr

-- ---------------------------------------------------------------------------
-- Queries
-- ---------------------------------------------------------------------------

theorem parentheses_of_lower {word : List Char} (hw : word.any isParenthesis = false)
    (h : (Text.lower text == word) = true) : parentheses text = [] := by
  refine List.eq_nil_iff_forall_not_mem.mpr fun c hc => ?_
  obtain ⟨hm, hp⟩ := mem_of_mem_parenthesesFrom hc
  have hk : c = '(' ∨ c = ')' := by simpa [isParenthesis] using hp
  have hl : Text.lowerChar c = [c] ∧ c ≠ 'Σ' := by
    rcases hk with rfl | rfl <;> exact ⟨rfl, by decide⟩
  have hn : c ∉ word := fun hm => List.any_eq_false.mp hw c hm hp
  rw [Grammar.lower_ne hm hl.2 hl.1 hn] at h
  cases h

theorem Leaf.parentheses_of_read {written : List Char} {leaf : Leaf}
    (h : read written = .ok leaf) (hv : ∀ culprit, leaf ≠ .invalid culprit) :
    parentheses written = [] := by
  rw [← parentheses_trim]
  simp only [read] at h
  split at h
  · next ht => exact parentheses_of_lower rfl ht
  · split at h
    · next hf => exact parentheses_of_lower rfl hf
    · split at h
      · exact absurd (Except.ok.inj h).symm (hv _)
      · next hp => exact parentheses_of_hasParentheses (Bool.eq_false_iff.mpr hp)

namespace Filter

theorem length_nested_ofExpr (expr : Expr Leaf) :
    (ofExpr expr).nested.length = expr.groupCount := by
  rw [expr.nested_ofExpr, expr.nested_body, List.length_map, List.length_zipIdx]
  exact expr.length_bodies expr.place 0

/-- A compiled query without invalid conjuncts has one group for every
parenthesis that opens outside quotes, and the parentheses outside quotes
match. -/
theorem parentheses_of_parse {text : List Char} {filter : Filter} (h : parse text = .ok filter)
    (hv : ∀ culprit, .invalid culprit ∉ filter.outline.leaves) :
    Matched (parentheses text) ∧ filter.nested.length = (parentheses text).count '(' := by
  rw [← parentheses_normalize text]
  by_cases hn : Text.normalize text = []
  · rw [parse, hn] at h
    cases h
    rw [hn]
    exact ⟨.nil, rfl⟩
  · have hl : ∀ written ∈ conjuncts text, parentheses written = [] := fun written hw => by
      obtain ⟨leaf, hm, hr⟩ := Attempt.exists_mem_of_mapM (mapM_conjuncts hn h) hw
      exact Leaf.parentheses_of_read hr fun culprit he => hv culprit (he ▸ hm)
    rw [parse_of_ne_nil hn, parseGroup] at h
    obtain ⟨expr, ht, he⟩ := Attempt.bind_ok.mp h
    obtain rfl := Except.ok.inj he
    obtain ⟨hm, hg⟩ := Expr.accounts_ofText (Text.normalize text) hl
    exact ⟨hm, by rw [length_nested_ofExpr, Expr.groupCount_traverse _ ht, hg]⟩

/-- The parenthesis in quotes is none of those that are counted. -/
theorem parentheses_quoted_paren :
    ∃ filter, parse "(a = \")\" AND (true)) OR false".toList = .ok filter ∧
      (∀ culprit, .invalid culprit ∉ filter.outline.leaves) ∧
      Matched (parentheses "(a = \")\" AND (true)) OR false".toList) ∧
      filter.nested.length = (parentheses "(a = \")\" AND (true)) OR false".toList).count '(' ∧
      filter.nested.length = 2 := by
  have ht : Expr.ofText "true".toList = .leaf "true".toList := by
    rw [Expr.ofText_eq]
    rfl
  have hi : Expr.ofText "a = \")\" AND (true)".toList =
      .join .and [.leaf "a = \")\"".toList, .group (Expr.ofText "true".toList)] := by
    rw [Expr.ofText_eq]
    rfl
  have ho : Expr.ofText "(a = \")\" AND (true)) OR false".toList =
      .join .or [.group (Expr.ofText "a = \")\" AND (true)".toList), .leaf "false".toList] := by
    rw [Expr.ofText_eq]
    rfl
  have hn : Text.normalize "(a = \")\" AND (true)) OR false".toList =
      "(a = \")\" AND (true)) OR false".toList := rfl
  obtain ⟨expr, hp, hl⟩ : ∃ expr,
      parse "(a = \")\" AND (true)) OR false".toList = .ok (ofExpr expr) ∧
      expr.leaves = [.condition ⟨"a", .equal, .text ")"⟩, .literal true, .literal false] := by
    refine ⟨.join .or [
      .group (.join .and [.leaf (.condition ⟨"a", .equal, .text ")"⟩),
        .group (.leaf (.literal true))]),
      .leaf (.literal false)], ?_, rfl⟩
    rw [parse_of_ne_nil (by decide), parseGroup, hn, ho, hi, ht]
    rfl
  have hv : ∀ culprit, .invalid culprit ∉ (ofExpr expr).outline.leaves := by
    intro culprit hm
    rw [outline_ofExpr, expr.leaves_outline, hl] at hm
    simp at hm
  obtain ⟨hm, hg⟩ := parentheses_of_parse hp hv
  exact ⟨_, hp, hv, hm, hg, hg.trans rfl⟩

end Filter

end RecordQuery
