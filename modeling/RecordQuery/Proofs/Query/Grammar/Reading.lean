import RecordQuery.Proofs.Filter.Outline
import RecordQuery.Proofs.Query.Grammar.Statements

/-!
# Reading expressions

The text of every tree is read as the expression that the tree stands for.
What splits a text at one level of the grammar leaves the texts of the level
below whole: a factor has no keyword at the top level, and a clause no OR.
-/

namespace RecordQuery

-- ---------------------------------------------------------------------------
-- Reading the leaves of joined parts
-- ---------------------------------------------------------------------------

namespace Expr

variable {α β : Type} (read : α → Except Failure β)

theorem traverseParts_cons {part : Expr α} {rest : List (Expr α)} {first : Expr β}
    {others : List (Expr β)} (hp : part.traverse read = .ok first)
    (hr : traverseParts read rest = .ok others) :
    traverseParts read (part :: rest) = .ok (first :: others) := by
  rw [traverseParts, hp, hr]
  rfl

/-- As many parts are read as there are, so a single part stays single. -/
theorem traverse_joined (connective : Connective) (parts : List (Expr α)) :
    (joined connective parts).traverse read =
      (traverseParts read parts).map (joined connective) := by
  cases parts with
  | nil => rfl
  | cons part rest =>
    cases rest with
    | nil =>
      rw [joined, traverseParts, traverseParts]
      cases part.traverse read <;> rfl
    | cons next rest =>
      rw [joined, traverse, traverseParts, traverseParts]
      · cases part.traverse read with
        | error _ => rfl
        | ok first =>
          cases next.traverse read with
          | error _ => rfl
          | ok second => cases traverseParts read rest <;> rfl
      · simp

end Expr

namespace Grammar

open Nesting (start Balanced Solid topWords)

-- ---------------------------------------------------------------------------
-- Texts of trees
-- ---------------------------------------------------------------------------

/-- What holds of the text of every tree. -/
structure Written (text : List Char) : Prop where
  nonempty : text ≠ []
  neat : Text.Neat text
  balanced : Balanced text

theorem Written.join {first second : List Char} (ha : Written first) (hb : Written second)
    (connective : Connective) : Written (first ++ (connective.separator ++ second)) where
  nonempty := List.append_ne_nil_of_left_ne_nil ha.nonempty _
  neat := by
    have hn : Text.Neat connective.name.toList :=
      .of_all (by cases connective <;> rfl)
    have hk : connective.name.toList ≠ [] := by cases connective <;> decide
    rw [connective.separator_eq, List.cons_append, List.append_assoc, List.singleton_append]
    exact ha.neat.join (hn.join hb.neat hk hb.nonempty) ha.nonempty (by simp)
  balanced := ha.balanced.append (.append (.plain connective.plain_separator) hb.balanced)

theorem Written.group {text : List Char} (h : Written text) :
    Written ('(' :: (text ++ [')'])) where
  nonempty := List.cons_ne_nil _ _
  neat := .enclosed h.neat.toSingleSpaced rfl rfl
  balanced := h.balanced.group

variable (layout : Layout)

mutual
theorem Factor.written : (factor : Factor) → Written (factor.text layout)
  | .truth verdict =>
    have hp := (Literal.truth verdict).piece
    ⟨hp.ne_nil, hp.neat, hp.flat.toBalanced⟩
  | .condition stated => by
    refine ⟨?_, stated.text_neat layout, (stated.text_flat layout).toBalanced⟩
    obtain ⟨c, hc, -⟩ := stated.exists_sign layout
    exact List.ne_nil_of_mem hc
  | .group body => body.written.group
theorem Clause.written : (clause : Clause) → Written (clause.text layout)
  | .one factor => factor.written
  | .and factor rest => factor.written.join rest.written .and
theorem Alternatives.written : (tree : Alternatives) → Written (tree.text layout)
  | .one clause => clause.written
  | .or clause rest => clause.written.join rest.written .or
end

theorem Factor.keywordless (factor : Factor) : Keywordless (factor.text layout) := by
  cases factor with
  | truth verdict => exact (Literal.truth verdict).piece.keywordless
  | condition stated => exact stated.text_keywordless layout
  | group body => exact .group (body.written layout).balanced

theorem Clause.no_or (clause : Clause) : Connective.or.word ∉ topWords (clause.text layout) := by
  cases clause with
  | one factor => exact factor.keywordless layout .or
  | and factor rest =>
    exact not_mem_topWords_separator (by decide) (factor.written layout).balanced.run
      (factor.keywordless layout .or) (no_or rest)

-- ---------------------------------------------------------------------------
-- Reading
-- ---------------------------------------------------------------------------

theorem Written.ofPart_group {text : List Char} (h : Written text) :
    Expr.ofPart ('(' :: (text ++ [')'])) = .group (Expr.ofText text) := by
  have hi : Text.trim text ≠ [] := by
    rw [h.neat.trim]
    exact h.nonempty
  rw [Expr.ofPart_group h.balanced hi, h.neat.trim]

def partsOf (clause : List Char) : List (Expr (List Char)) :=
  (splitTopLevel clause Connective.and.separator).map Expr.ofPart

def clausesOf (text : List Char) : List (Expr (List Char)) :=
  (splitTopLevel text Connective.or.separator).map fun clause => .joined .and (partsOf clause)

theorem partsOf_one (factor : Factor) :
    partsOf (factor.text layout) = [Expr.ofPart (factor.text layout)] := by
  rw [partsOf, splitTopLevel_of_no_word ((factor.keywordless layout).not_mem_tail .and)]
  rfl

theorem partsOf_and (factor : Factor) (rest : List Char) :
    partsOf (factor.text layout ++ (Connective.and.separator ++ rest)) =
      Expr.ofPart (factor.text layout) :: partsOf rest := by
  rw [partsOf, splitTopLevel_separator (factor.written layout).balanced.run
    ((factor.keywordless layout).not_mem_tail .and)]
  rfl

theorem clausesOf_one (clause : Clause) :
    clausesOf (clause.text layout) = [.joined .and (partsOf (clause.text layout))] := by
  rw [clausesOf, splitTopLevel_of_no_word fun hm => clause.no_or layout (List.mem_of_mem_tail hm)]
  rfl

theorem clausesOf_or (clause : Clause) (rest : List Char) :
    clausesOf (clause.text layout ++ (Connective.or.separator ++ rest)) =
      .joined .and (partsOf (clause.text layout)) :: clausesOf rest := by
  rw [clausesOf, splitTopLevel_separator (clause.written layout).balanced.run fun hm =>
    clause.no_or layout (List.mem_of_mem_tail hm)]
  rfl

theorem traverse_joined_ok {connective : Connective} {parts : List (Expr (List Char))}
    {exprs : List (Expr Leaf)} (h : Expr.traverseParts Leaf.read parts = .ok exprs) :
    (Expr.joined connective parts).traverse Leaf.read = .ok (.joined connective exprs) := by
  rw [Expr.traverse_joined, h]
  rfl

theorem traverse_ofText {text : List Char} {exprs : List (Expr Leaf)}
    (h : Expr.traverseParts Leaf.read (clausesOf text) = .ok exprs) :
    (Expr.ofText text).traverse Leaf.read = .ok (.joined .or exprs) := by
  rw [Expr.ofText_eq]
  exact traverse_joined_ok h

mutual
theorem Factor.read :
    (factor : Factor) → (Expr.ofPart (factor.text layout)).traverse Leaf.read = .ok factor.expr
  | .truth verdict => by
    have hh : (Literal.truth verdict).text.head? ≠ some '(' := by cases verdict <;> decide
    show (Expr.ofPart (Literal.truth verdict).text).traverse Leaf.read = _
    rw [Expr.ofPart_leaf (Literal.truth verdict).piece.neat hh]
    cases verdict <;> rfl
  | .condition stated => by
    rw [Factor.text, Expr.ofPart_leaf (stated.text_neat layout) (stated.head_text layout), Expr.traverse,
      stated.read_text layout]
    rfl
  | .group body => by
    rw [Factor.text, (body.written layout).ofPart_group, Expr.traverse,
      traverse_ofText body.readParts]
    rfl
theorem Clause.read :
    (clause : Clause) → Expr.traverseParts Leaf.read (partsOf (clause.text layout)) =
      .ok clause.exprs
  | .one factor => by
    rw [Clause.text, partsOf_one]
    exact Expr.traverseParts_cons Leaf.read factor.read rfl
  | .and factor rest => by
    rw [Clause.text, partsOf_and]
    exact Expr.traverseParts_cons Leaf.read factor.read rest.read
theorem Alternatives.readParts :
    (tree : Alternatives) → Expr.traverseParts Leaf.read (clausesOf (tree.text layout)) =
      .ok tree.exprs
  | .one clause => by
    rw [Alternatives.text, clausesOf_one]
    exact Expr.traverseParts_cons Leaf.read (traverse_joined_ok clause.read) rfl
  | .or clause rest => by
    rw [Alternatives.text, clausesOf_or]
    exact Expr.traverseParts_cons Leaf.read (traverse_joined_ok clause.read) rest.readParts
end

theorem Alternatives.read (tree : Alternatives) :
    (Expr.ofText (tree.text layout)).traverse Leaf.read = .ok tree.expr :=
  traverse_ofText (tree.readParts layout)

theorem Alternatives.parse (tree : Alternatives) :
    Filter.parse (tree.text layout) = .ok (Filter.ofExpr tree.expr) := by
  have hn : Text.normalize (tree.text layout) = tree.text layout :=
    (tree.written layout).neat.normalize
  have he : Text.normalize (tree.text layout) ≠ [] := by
    rw [hn]
    exact (tree.written layout).nonempty
  rw [Filter.parse_of_ne_nil he, hn, Filter.parseGroup, tree.read layout]
  rfl

/-- Writing a tree and parsing the text gives the tree back: its connectives
and leaves, and a group for every pair of parentheses, each one higher than
the highest inside it. -/
theorem Alternatives.round_trip (tree : Alternatives) :
    ∃ filter, Filter.parse (tree.text layout) = .ok filter ∧
      filter.outline = tree.expr.outline ∧
      (filter.groups.map Filter.outlineOf).Perm tree.expr.outline.groups :=
  ⟨_, tree.parse layout, Filter.outline_ofExpr _, Filter.groups_ofExpr_perm _⟩

end Grammar

end RecordQuery
