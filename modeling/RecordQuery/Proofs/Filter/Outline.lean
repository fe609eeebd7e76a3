import RecordQuery.Proofs.Filter.Places

/-!
# Outlines

What is left of an expression or a filter once the places of its groups are
forgotten: leaves, chains, and groups with their heights. A filter made from
an expression has the outline of the expression, and its groups are those of
the outline.
-/

namespace RecordQuery

inductive Outline where
  | leaf (content : Leaf)
  | chain (connective : Connective) (parts : List Outline)
  | group (height : Nat) (body : Outline)

namespace Outline

mutual
def top : Outline → Nat
  | leaf _ => 0
  | chain _ parts => topOfParts parts
  | group height body => max height body.top
def topOfParts : List Outline → Nat
  | [] => 0
  | part :: rest => max part.top (topOfParts rest)
end

mutual
def groups : Outline → List (Nat × Outline)
  | leaf _ => []
  | chain _ parts => groupsOfParts parts
  | group height body => body.groups ++ [(height, body)]
def groupsOfParts : List Outline → List (Nat × Outline)
  | [] => []
  | part :: rest => part.groups ++ groupsOfParts rest
end

end Outline

mutual
/-- A group is one higher than the highest inside it. -/
def Expr.outline : Expr Leaf → Outline
  | .leaf content => .leaf content
  | .join connective parts => .chain connective (Expr.outlines parts)
  | .group body => .group (1 + body.outline.top) body.outline
def Expr.outlines : List (Expr Leaf) → List Outline
  | [] => []
  | part :: rest => part.outline :: Expr.outlines rest
end

mutual
def Filter.outline : Filter → Outline
  | .leaf content => .leaf content
  | .chain connective parts => .chain connective (Filter.outlines parts)
  | .reference _ height body => .group height body.outline
  | .scope body _ => body.outline
def Filter.outlines : List Filter → List Outline
  | [] => []
  | part :: rest => part.outline :: Filter.outlines rest
end

namespace Expr

mutual
theorem top_outline : (expr : Expr Leaf) → expr.outline.top = expr.height
  | leaf _ => rfl
  | join _ parts => topOfParts_outlines parts
  | group body => by
    rw [outline, Outline.top, height, body.top_outline]
    omega
theorem topOfParts_outlines :
    (parts : List (Expr Leaf)) → Outline.topOfParts (outlines parts) = heightOfParts parts
  | [] => rfl
  | part :: rest => by
    rw [outlines, Outline.topOfParts, heightOfParts, part.top_outline, topOfParts_outlines rest]
end

section
variable (place : Nat → Nat) (start : Nat)

mutual
theorem outline_toFilter :
    (expr : Expr Leaf) → (start : Nat) → (expr.toFilter place start).outline = expr.outline
  | leaf _, _ => rfl
  | join _ parts, start => by
    rw [toFilter, Filter.outline, outline, outlines_toFilters parts start]
  | group body, start => by
    rw [toFilter, Filter.outline, outline, body.outline_toFilter start, body.top_outline,
      Nat.add_comm]
theorem outlines_toFilters : (parts : List (Expr Leaf)) → (start : Nat) →
    Filter.outlines (toFilters place start parts) = outlines parts
  | [], _ => rfl
  | part :: rest, start => by
    rw [toFilters, Filter.outlines, outlines, part.outline_toFilter start,
      outlines_toFilters rest (start + part.groupCount)]
end

end

end Expr

def Filter.outlineOf (group : Nat × Filter) : Nat × Outline := (group.1, group.2.outline)

namespace Expr

mutual
theorem outlines_bodies (place : Nat → Nat) : (expr : Expr Leaf) → (start : Nat) →
    (expr.bodies place start).map Filter.outlineOf = expr.outline.groups
  | leaf _, _ => rfl
  | join _ parts, start => outlines_bodiesOfParts place parts start
  | group body, start => by
    rw [bodies, outline, Outline.groups, List.map_append, body.outlines_bodies place start,
      List.map_singleton, Filter.outlineOf, body.outline_toFilter place start, body.top_outline,
      Nat.add_comm]
theorem outlines_bodiesOfParts (place : Nat → Nat) : (parts : List (Expr Leaf)) → (start : Nat) →
    (bodiesOfParts place start parts).map Filter.outlineOf =
      Outline.groupsOfParts (outlines parts)
  | [], _ => rfl
  | part :: rest, start => by
    rw [bodiesOfParts, outlines, Outline.groupsOfParts, List.map_append,
      part.outlines_bodies place start,
      outlines_bodiesOfParts place rest (start + part.groupCount)]
end

end Expr

namespace Filter

theorem outline_ofExpr (expr : Expr Leaf) : (ofExpr expr).outline = expr.outline := by
  have hb : expr.body.outline = expr.outline := expr.outline_toFilter expr.place 0
  rcases ofExpr_cases expr with ⟨-, he⟩ | he
  · rw [he, hb]
  · rw [he, outline, hb]

theorem groups_ofExpr_perm (expr : Expr Leaf) :
    ((ofExpr expr).groups.map outlineOf).Perm expr.outline.groups := by
  rw [groups_ofExpr, ← expr.outlines_bodies expr.place 0]
  exact (byHeight_perm expr.placed).map outlineOf

end Filter

end RecordQuery
