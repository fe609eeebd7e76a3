import RecordQuery.Proofs.Attempt
import RecordQuery.Proofs.Filter.Outline

/-!
# Expressions with an open leaf

A context is an expression with one leaf left open. Whatever leaf is put
there, reading the expression goes the same way, and the filters made from it
differ in that leaf alone: connectives, groups, heights and places are those
of the context.
-/

namespace RecordQuery

namespace Expr

inductive Context (α : Type) where
  | hole
  | join (connective : Connective) (before : List (Expr α)) (inside : Context α)
      (after : List (Expr α))
  | group (inside : Context α)

namespace Context

variable {α β : Type}

def fill (content : α) : Context α → Expr α
  | hole => .leaf content
  | join connective before inside after => .join connective (before ++ inside.fill content :: after)
  | group inside => .group (inside.fill content)

def joined (connective : Connective) (before : List (Expr α)) (inside : Context α)
    (after : List (Expr α)) : Context α :=
  match before, after with
  | [], [] => inside
  | before, after => join connective before inside after

theorem fill_joined (content : α) (connective : Connective) (before : List (Expr α))
    (inside : Context α) (after : List (Expr α)) :
    (joined connective before inside after).fill content =
      Expr.joined connective (before ++ inside.fill content :: after) := by
  cases before with
  | nil =>
    cases after with
    | nil => rfl
    | cons part after => rfl
  | cons part before => cases before <;> rfl

end Context

-- ---------------------------------------------------------------------------
-- Reading
-- ---------------------------------------------------------------------------

section
variable {α β : Type} (read : α → Except Failure β)

theorem traverseParts_eq (parts : List (Expr α)) :
    traverseParts read parts = parts.mapM (traverse read) := by
  induction parts with
  | nil => rfl
  | cons part rest ih =>
    rw [traverseParts, ih, List.mapM_cons]
    rfl

/-- Reading an expression with an open leaf that can be read fails in one
way or goes on to one context. -/
theorem traverse_fill (context : Context α) :
    (∃ failure, ∀ content result, read content = .ok result →
      (context.fill content).traverse read = .error failure) ∨
    ∃ found : Context β, ∀ content result, read content = .ok result →
      (context.fill content).traverse read = .ok (found.fill result) := by
  induction context with
  | hole =>
    refine .inr ⟨.hole, fun content result h => ?_⟩
    rw [Context.fill, traverse, h]
    rfl
  | group inside ih =>
    rcases ih with ⟨failure, hf⟩ | ⟨found, hf⟩
    · refine .inl ⟨failure, fun content result h => ?_⟩
      rw [Context.fill, traverse, hf content result h]
      rfl
    · refine .inr ⟨.group found, fun content result h => ?_⟩
      rw [Context.fill, traverse, hf content result h]
      rfl
  | join connective before inside after ih =>
    -- A part before the open one fails first, one behind it only if the open one is read.
    simp only [Context.fill, traverse, traverseParts_eq, List.mapM_append, List.mapM_cons]
    cases before.mapM (traverse read) with
    | error failure => exact .inl ⟨failure, fun _ _ _ => rfl⟩
    | ok before =>
      rcases ih with ⟨failure, hf⟩ | ⟨found, hf⟩
      · refine .inl ⟨failure, fun content result h => ?_⟩
        rw [hf content result h]
        rfl
      · cases after.mapM (traverse read) with
        | error failure =>
          refine .inl ⟨failure, fun content result h => ?_⟩
          rw [hf content result h]
          rfl
        | ok after =>
          refine .inr ⟨.join connective before found after, fun content result h => ?_⟩
          rw [hf content result h]
          rfl

end

end Expr

-- ---------------------------------------------------------------------------
-- Skeletons
-- ---------------------------------------------------------------------------

mutual
/-- The expression with all leaves alike. -/
def Expr.skeleton : Expr Leaf → Expr Leaf
  | .leaf _ => .leaf (.literal true)
  | .join connective parts => .join connective (Expr.skeletons parts)
  | .group body => .group body.skeleton
def Expr.skeletons : List (Expr Leaf) → List (Expr Leaf)
  | [] => []
  | part :: rest => part.skeleton :: Expr.skeletons rest
end

mutual
/-- The filter with all leaves alike: its chains, and its groups with their
places and heights. -/
def Filter.skeleton : Filter → Filter
  | .leaf _ => .literal true
  | .chain connective parts => .chain connective (Filter.skeletons parts)
  | .reference place height body => .reference place height body.skeleton
  | .scope body groups => .scope body.skeleton (Filter.skeletonsOfGroups groups)
def Filter.skeletons : List Filter → List Filter
  | [] => []
  | part :: rest => part.skeleton :: Filter.skeletons rest
def Filter.skeletonsOfGroups : List (Nat × Filter) → List (Nat × Filter)
  | [] => []
  | (height, body) :: rest => (height, body.skeleton) :: Filter.skeletonsOfGroups rest
end

theorem Filter.skeletonsOfGroups_eq (groups : List (Nat × Filter)) :
    Filter.skeletonsOfGroups groups = groups.map fun group => (group.1, group.2.skeleton) := by
  induction groups with
  | nil => rfl
  | cons group rest ih => rw [Filter.skeletonsOfGroups, ih, List.map_cons]

namespace Expr

theorem skeletons_append (first second : List (Expr Leaf)) :
    skeletons (first ++ second) = skeletons first ++ skeletons second := by
  induction first with
  | nil => rfl
  | cons part rest ih => rw [List.cons_append, skeletons, ih, skeletons, List.cons_append]

mutual
theorem height_skeleton : (expr : Expr Leaf) → expr.skeleton.height = expr.height
  | leaf _ => rfl
  | join _ parts => heightOfParts_skeletons parts
  | group body => by rw [skeleton, height, height, body.height_skeleton]
theorem heightOfParts_skeletons :
    (parts : List (Expr Leaf)) → heightOfParts (skeletons parts) = heightOfParts parts
  | [] => rfl
  | part :: rest => by
    rw [skeletons, heightOfParts, heightOfParts, part.height_skeleton, heightOfParts_skeletons rest]
end

mutual
theorem heights_skeleton : (expr : Expr Leaf) → expr.skeleton.heights = expr.heights
  | leaf _ => rfl
  | join _ parts => heightsOfParts_skeletons parts
  | group body => by
    rw [skeleton, heights, heights, body.heights_skeleton, body.height_skeleton]
theorem heightsOfParts_skeletons :
    (parts : List (Expr Leaf)) → heightsOfParts (skeletons parts) = heightsOfParts parts
  | [] => rfl
  | part :: rest => by
    rw [skeletons, heightsOfParts, heightsOfParts, part.heights_skeleton,
      heightsOfParts_skeletons rest]
end

theorem groupCount_skeleton (expr : Expr Leaf) : expr.skeleton.groupCount = expr.groupCount := by
  rw [← length_heights, ← length_heights, heights_skeleton]

theorem place_skeleton (expr : Expr Leaf) : expr.skeleton.place = expr.place := by
  funext number
  rw [place, place, order, order, heights_skeleton]

section
variable (place : Nat → Nat)

mutual
theorem toFilter_skeleton : (expr : Expr Leaf) → (start : Nat) →
    expr.skeleton.toFilter place start = (expr.toFilter place start).skeleton
  | leaf _, _ => rfl
  | join _ parts, start => by
    rw [skeleton, toFilter, toFilter, Filter.skeleton, toFilters_skeletons parts start]
  | group body, start => by
    rw [skeleton, toFilter, toFilter, Filter.skeleton, body.groupCount_skeleton,
      body.height_skeleton, body.toFilter_skeleton start]
theorem toFilters_skeletons : (parts : List (Expr Leaf)) → (start : Nat) →
    toFilters place start (skeletons parts) = Filter.skeletons (toFilters place start parts)
  | [], _ => rfl
  | part :: rest, start => by
    rw [skeletons, toFilters, toFilters, Filter.skeletons, part.toFilter_skeleton start,
      part.groupCount_skeleton, toFilters_skeletons rest]
end

mutual
theorem bodies_skeleton : (expr : Expr Leaf) → (start : Nat) →
    expr.skeleton.bodies place start =
      (expr.bodies place start).map fun group => (group.1, group.2.skeleton)
  | leaf _, _ => rfl
  | join _ parts, start => bodiesOfParts_skeletons parts start
  | group body, start => by
    rw [skeleton, bodies, bodies, List.map_append, body.bodies_skeleton start,
      body.height_skeleton, body.toFilter_skeleton place start]
    rfl
theorem bodiesOfParts_skeletons : (parts : List (Expr Leaf)) → (start : Nat) →
    bodiesOfParts place start (skeletons parts) =
      (bodiesOfParts place start parts).map fun group => (group.1, group.2.skeleton)
  | [], _ => rfl
  | part :: rest, start => by
    rw [skeletons, bodiesOfParts, bodiesOfParts, List.map_append, part.bodies_skeleton start,
      part.groupCount_skeleton, bodiesOfParts_skeletons rest]
end

end

end Expr

theorem Filter.skeleton_ofExpr (expr : Expr Leaf) :
    (ofExpr expr).skeleton = ofExpr expr.skeleton := by
  have hb : expr.skeleton.body = expr.body.skeleton := by
    rw [Expr.body, expr.place_skeleton, expr.toFilter_skeleton, Expr.body]
  have hp : expr.skeleton.placed = expr.placed.map fun group => (group.1, group.2.skeleton) := by
    rw [Expr.placed, expr.place_skeleton, expr.bodies_skeleton, Expr.placed]
  by_cases hn : expr.placed = []
  · rw [ofExpr_of_placed_nil hn, ofExpr_of_placed_nil (by rw [hp, hn]; rfl), hb]
  · rw [ofExpr_of_placed hn, ofExpr_of_placed (by simpa [hp] using hn), skeleton, hb, hp,
      skeletonsOfGroups_eq, byHeight_map]

namespace Expr.Context

theorem skeleton_fill (context : Context Leaf) (first second : Leaf) :
    (context.fill first).skeleton = (context.fill second).skeleton := by
  induction context with
  | hole => rfl
  | group inside ih => rw [fill, fill, skeleton, skeleton, ih]
  | join connective before inside after ih =>
    rw [fill, fill, skeleton, skeleton, skeletons_append, skeletons_append, skeletons, skeletons,
      ih]

end Expr.Context

-- ---------------------------------------------------------------------------
-- Leaves
-- ---------------------------------------------------------------------------

namespace Outline

mutual
def leaves : Outline → List Leaf
  | leaf content => [content]
  | chain _ parts => leavesOfParts parts
  | group _ body => body.leaves
def leavesOfParts : List Outline → List Leaf
  | [] => []
  | part :: rest => part.leaves ++ leavesOfParts rest
end

theorem leavesOfParts_append (first second : List Outline) :
    leavesOfParts (first ++ second) = leavesOfParts first ++ leavesOfParts second := by
  induction first with
  | nil => rfl
  | cons part rest ih => rw [List.cons_append, leavesOfParts, ih, leavesOfParts, List.append_assoc]

end Outline

namespace Expr

theorem outlines_append (first second : List (Expr Leaf)) :
    outlines (first ++ second) = outlines first ++ outlines second := by
  induction first with
  | nil => rfl
  | cons part rest ih => rw [List.cons_append, outlines, ih, outlines, List.cons_append]

theorem Context.leaves_fill (context : Context Leaf) :
    ∃ before after, ∀ content,
      (context.fill content).outline.leaves = before ++ content :: after := by
  induction context with
  | hole => exact ⟨[], [], fun content => rfl⟩
  | group inside ih => exact ih
  | join connective first inside last ih =>
    obtain ⟨before, after, hl⟩ := ih
    refine ⟨Outline.leavesOfParts (outlines first) ++ before,
      after ++ Outline.leavesOfParts (outlines last), fun content => ?_⟩
    rw [fill, outline, Outline.leaves, outlines_append, Outline.leavesOfParts_append, outlines,
      Outline.leavesOfParts, hl content]
    simp only [List.append_assoc, List.cons_append]

end Expr

end RecordQuery
