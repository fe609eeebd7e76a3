import RecordQuery.Proofs.Query.Overlong
import RecordQuery.Proofs.Query.Quotation

/-!
# Reading around quotations

A leaf that holds a quote can be read whatever it says, so whether a query
is read at all does not depend on what is quoted in it. A comparison with a
quotation is read as the condition on the text in the quotes.
-/

namespace RecordQuery

open Nesting (start Flat isPlain)

variable {left right content text : List Char}

-- ---------------------------------------------------------------------------
-- Leaves that hold a quote
-- ---------------------------------------------------------------------------

theorem Leaf.exists_read (h : '"' ∈ text) : ∃ leaf, Leaf.read text = .ok leaf := by
  cases hr : Leaf.read text with
  | ok leaf => exact ⟨leaf, rfl⟩
  | error failure =>
    obtain ⟨count, ho, -⟩ := Leaf.overlong_of_read hr
    exact absurd h ho.quote_not_mem

-- ---------------------------------------------------------------------------
-- Comparisons with a quotation
-- ---------------------------------------------------------------------------

/-- A name and an operator stand before a quotation and nothing behind it;
blanks may stand before, between and behind these. -/
structure Compares (field : List Char) (comparison : Grammar.Comparison) (left right : List Char) :
    Prop where
  nonempty : field ≠ []
  isWord : ∀ c ∈ field, Text.isWord c = true
  before : ∃ first second third, Text.isBlankText first = true ∧ Text.isBlankText second = true ∧
    Text.isBlankText third = true ∧
    left = first ++ (field ++ (second ++ (comparison.operator.name.toList ++ third)))
  after : Text.isBlankText right = true

theorem flat_blank (h : Text.isBlankText text = true) : Flat text :=
  .plain fun c hc => Nesting.isPlain_of_isBlank (List.all_eq_true.mp h c hc)

theorem flat_word (h : ∀ c ∈ text, Text.isWord c = true) : Flat text :=
  .plain fun c hc => Nesting.isPlain_of Text.isWord (h c hc) rfl rfl rfl

theorem Compares.trim {field : List Char} {comparison : Grammar.Comparison}
    (h : Compares field comparison left right) (content : List Char) :
    ∃ second third, Text.isBlankText second = true ∧ Text.isBlankText third = true ∧
      Text.trim (left ++ (quotation content ++ right)) =
        field ++ (second ++ (comparison.operator.name.toList ++ (third ++ quotation content))) := by
  obtain ⟨first, second, third, hf, hs, ht, rfl⟩ := h.before
  refine ⟨second, third, hs, ht, ?_⟩
  have hb (rest : List Char) : Text.trimStart (field ++ rest) = field ++ rest := by
    refine Text.trimStart_eq_self fun c hc => Text.isBlank_of_isWord (h.isWord c ?_)
    rw [List.head?_append_of_ne_nil _ h.nonempty] at hc
    exact List.mem_of_mem_head? hc
  rw [quotation, Text.trim_around rfl rfl, Text.trimEnd_blank h.after,
    Text.trimStart_blank_append hf, hb]
  simp only [List.append_assoc, List.append_nil]

theorem Compares.read {field : List Char} {comparison : Grammar.Comparison}
    (h : Compares field comparison left right) (hq : '"' ∉ content) (hl : '\n' ∉ content) :
    Leaf.read (left ++ (quotation content ++ right)) = .ok (.condition
      ⟨String.ofList field, comparison.operator, .text (String.ofList content)⟩) := by
  obtain ⟨second, third, hs, ht, hi⟩ := h.trim content
  have hf : Flat (Text.trim (left ++ (quotation content ++ right))) :=
    hi ▸ (flat_word h.isWord).append ((flat_blank hs).append (comparison.piece.flat.append
      ((flat_blank ht).append (.quoted hq))))
  have hc : Condition.comparison?
      (field ++ (second ++ (comparison.operator.name.toList ++ (third ++ quotation content)))) =
      some (String.ofList field, comparison.operator, quotation content) := by
    refine Grammar.comparison?_comparison comparison h.nonempty h.isWord hs ht
      (List.cons_ne_nil _ _) (fun c hc => ?_) (by simp [quotation, hl])
    cases hc
    rfl
  have hr : Condition.read? (left ++ (quotation content ++ right)) =
      .ok (some ⟨String.ofList field, comparison.operator, .text (String.ofList content)⟩) := by
    simp only [Condition.read?, hi, hc,
      Grammar.membership?_comparison comparison h.nonempty h.isWord hs]
    rw [quotation, Grammar.Literal.parseLiteral_quoted]
    rfl
  have hn (word : List Char) (hw : '"' ∉ word) :
      (Text.lower (Text.trim (left ++ (quotation content ++ right))) == word) = false := by
    refine Grammar.lower_ne (Text.mem_trim rfl ?_) (by decide) (by decide) hw
    simp [quotation]
  simp only [Leaf.read, hn "true".toList (by decide), hn "false".toList (by decide),
    hf.noGroups, hr, Bool.false_eq_true, ↓reduceIte]
  rfl

-- ---------------------------------------------------------------------------
-- Queries
-- ---------------------------------------------------------------------------

/-- Two texts in the same quotes: either neither query is read, for one
reason, or both are read as one context with a leaf for the quotation. The
filters have the same skeleton and the same leaves but for this one. -/
theorem Filter.parseGroup_quotation {v w : List Char} (h : left.count '"' % 2 = 0) (hv : '"' ∉ v)
    (hw : '"' ∉ w) (right : List Char) :
    (∃ failure, parseGroup (left ++ (quotation v ++ right)) = .error failure ∧
      parseGroup (left ++ (quotation w ++ right)) = .error failure) ∨
    ∃ (context : Expr.Context Leaf) (front back : List Char) (first second : Leaf),
      parseGroup (left ++ (quotation v ++ right)) = .ok (ofExpr (context.fill first)) ∧
      parseGroup (left ++ (quotation w ++ right)) = .ok (ofExpr (context.fill second)) ∧
      (ofExpr (context.fill first)).skeleton = (ofExpr (context.fill second)).skeleton ∧
      (∃ before after,
        (ofExpr (context.fill first)).outline.leaves = before ++ first :: after ∧
        (ofExpr (context.fill second)).outline.leaves = before ++ second :: after) ∧
      front <:+ left ∧ back <+: right ∧
      Leaf.read (front ++ (quotation v ++ back)) = .ok first ∧
      Leaf.read (front ++ (quotation w ++ back)) = .ok second ∧
      ∀ field comparison, Compares field comparison front back → '\n' ∉ v →
        first = .condition ⟨String.ofList field, comparison.operator, .text (String.ofList v)⟩ := by
  obtain ⟨texts, front, back, hf, hb, he⟩ := Encloses.ofText h right
  have hm (content : List Char) : '"' ∈ front ++ (quotation content ++ back) := by
    simp [quotation]
  obtain ⟨first, hr⟩ := Leaf.exists_read (hm v)
  obtain ⟨second, hs⟩ := Leaf.exists_read (hm w)
  have hp {content : List Char} (hc : '"' ∉ content) :
      parseGroup (left ++ (quotation content ++ right)) =
        ((texts.fill (front ++ (quotation content ++ back))).traverse Leaf.read).map ofExpr := by
    rw [parseGroup, he content hc]
    cases Expr.traverse Leaf.read (texts.fill (front ++ (quotation content ++ back))) <;> rfl
  rcases Expr.traverse_fill Leaf.read texts with ⟨failure, ht⟩ | ⟨context, ht⟩
  · refine .inl ⟨failure, ?_, ?_⟩
    · rw [hp hv, ht _ _ hr]
      rfl
    · rw [hp hw, ht _ _ hs]
      rfl
  · obtain ⟨before, after, hl⟩ := context.leaves_fill
    refine .inr ⟨context, front, back, first, second, ?_, ?_, ?_, ⟨before, after, ?_, ?_⟩, hf, hb,
      hr, hs, fun field comparison hc hn => ?_⟩
    · rw [hp hv, ht _ _ hr]
      rfl
    · rw [hp hw, ht _ _ hs]
      rfl
    · rw [skeleton_ofExpr, skeleton_ofExpr, context.skeleton_fill first second]
    · rw [outline_ofExpr, hl]
    · rw [outline_ofExpr, hl]
    · exact Except.ok.inj (hr.symm.trans (hc.read hv hn))

/-- A keyword and a parenthesis in quotes leave the query the pair it is. -/
theorem Filter.parseGroup_quotedKeyword :
    "a = ".toList.count '"' % 2 = 0 ∧ '"' ∉ "x OR (".toList ∧ '"' ∉ "x".toList ∧
    ∃ (context : Expr.Context Leaf) (first second : Leaf),
      parseGroup "a = \"x OR (\" AND b > 1".toList = .ok (ofExpr (context.fill first)) ∧
      parseGroup "a = \"x\" AND b > 1".toList = .ok (ofExpr (context.fill second)) ∧
      (ofExpr (context.fill first)).skeleton = (ofExpr (context.fill second)).skeleton := by
  have ha : "a = ".toList.count '"' % 2 = 0 := by decide
  have hv : '"' ∉ "x OR (".toList := by decide
  have hw : '"' ∉ "x".toList := by decide
  refine ⟨ha, hv, hw, ?_⟩
  rcases parseGroup_quotation ha hv hw " AND b > 1".toList with
    ⟨failure, -, he⟩ | ⟨context, _, _, first, second, hf, hs, hk, -⟩
  · have ho : (parseGroup "a = \"x\" AND b > 1".toList).isOk = true := by
      rw [parseGroup, Expr.ofText_eq]
      rfl
    rw [show "a = \"x\" AND b > 1".toList =
      "a = ".toList ++ (quotation "x".toList ++ " AND b > 1".toList) from rfl, he] at ho
    cases ho
  · exact ⟨context, first, second, hf, hs, hk⟩

end RecordQuery
