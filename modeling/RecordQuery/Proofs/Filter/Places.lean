import RecordQuery.Proofs.Filter.Order

/-!
# Places of groups

The place that is worked out for a group from the heights alone is the one
where the scope keeps the group. A reference stands for a group that is kept
in its place, and inside a group only for earlier ones.
-/

namespace RecordQuery

namespace Expr

/-- The place of a group in the order of evaluation. -/
def place (expr : Expr Leaf) (number : Nat) : Nat := expr.order.idxOf number

def body (expr : Expr Leaf) : Filter := expr.toFilter expr.place 0

def placed (expr : Expr Leaf) : List (Nat × Filter) := expr.bodies expr.place 0

theorem groups_toFilter (place : Nat → Nat) (start : Nat) (expr : Expr Leaf) :
    (expr.toFilter place start).groups = [] := by
  cases expr <;> rfl

end Expr

namespace Filter

theorem parse_of_ne_nil {text : List Char} (h : Text.normalize text ≠ []) :
    parse text = parseGroup (Text.normalize text) := by
  unfold parse
  split
  · next he => exact absurd he h
  · rfl

theorem ofExpr_of_placed_nil {expr : Expr Leaf} (h : expr.placed = []) :
    ofExpr expr = expr.body := by
  unfold ofExpr
  dsimp only
  split
  · rfl
  · next hn => exact absurd h hn

theorem ofExpr_of_placed {expr : Expr Leaf} (h : expr.placed ≠ []) :
    ofExpr expr = .scope expr.body (byHeight expr.placed) := by
  unfold ofExpr
  dsimp only
  split
  · next hn => exact absurd hn h
  · rfl

theorem ofExpr_cases (expr : Expr Leaf) :
    expr.placed = [] ∧ ofExpr expr = expr.body ∨
      ofExpr expr = .scope expr.body (byHeight expr.placed) := by
  by_cases h : expr.placed = []
  · exact .inl ⟨h, ofExpr_of_placed_nil h⟩
  · exact .inr (ofExpr_of_placed h)

theorem groups_ofExpr (expr : Expr Leaf) : (ofExpr expr).groups = byHeight expr.placed := by
  rcases ofExpr_cases expr with ⟨hp, he⟩ | he
  · rw [he, hp, Expr.body, Expr.groups_toFilter]
    rfl
  · rw [he]
    rfl

end Filter

-- ---------------------------------------------------------------------------
-- Numbers and heights
-- ---------------------------------------------------------------------------

namespace Expr

mutual
theorem heights_bodies (place : Nat → Nat) : (expr : Expr Leaf) → (start : Nat) →
    (expr.bodies place start).map Prod.fst = expr.heights
  | leaf _, _ => rfl
  | join _ parts, start => heights_bodiesOfParts place parts start
  | group body, start => by
    rw [bodies, heights, List.map_append, body.heights_bodies place start]
    rfl
theorem heights_bodiesOfParts (place : Nat → Nat) : (parts : List (Expr Leaf)) → (start : Nat) →
    (bodiesOfParts place start parts).map Prod.fst = heightsOfParts parts
  | [], _ => rfl
  | part :: rest, start => by
    rw [bodiesOfParts, heightsOfParts, List.map_append, part.heights_bodies place start,
      heights_bodiesOfParts place rest]
end

mutual
theorem length_heights : (expr : Expr Leaf) → expr.heights.length = expr.groupCount
  | leaf _ => rfl
  | join _ parts => length_heightsOfParts parts
  | group body => by
    rw [heights, groupCount, List.length_append, body.length_heights]
    rfl
theorem length_heightsOfParts :
    (parts : List (Expr Leaf)) → (heightsOfParts parts).length = groupCountOfParts parts
  | [] => rfl
  | part :: rest => by
    rw [heightsOfParts, groupCountOfParts, List.length_append, part.length_heights,
      length_heightsOfParts rest]
end

theorem length_bodies (place : Nat → Nat) (expr : Expr Leaf) (start : Nat) :
    (expr.bodies place start).length = expr.groupCount := by
  rw [← List.length_map Prod.fst, heights_bodies, length_heights]

mutual
theorem le_height : (expr : Expr Leaf) → ∀ height ∈ expr.heights, height ≤ expr.height
  | leaf _ => by simp [heights]
  | join _ parts => le_heightOfParts parts
  | group body => by
    intro height hm
    rw [heights, List.mem_append, List.mem_singleton] at hm
    rw [Expr.height]
    rcases hm with hm | rfl
    · exact Nat.le_succ_of_le (body.le_height height hm)
    · exact Nat.le_refl _
theorem le_heightOfParts : (parts : List (Expr Leaf)) →
    ∀ height ∈ heightsOfParts parts, height ≤ heightOfParts parts
  | [] => by simp [heightsOfParts]
  | part :: rest => by
    intro height hm
    rw [heightsOfParts, List.mem_append] at hm
    rw [heightOfParts]
    rcases hm with hm | hm
    · exact Nat.le_trans (part.le_height height hm) (Nat.le_max_left _ _)
    · exact Nat.le_trans (le_heightOfParts rest height hm) (Nat.le_max_right _ _)
end

theorem getElem?_place (expr : Expr Leaf) (h : number < expr.placed.length) :
    (byHeight expr.placed)[expr.place number]? = expr.placed[number]? := by
  have hp : expr.placed.map Prod.fst = expr.heights := heights_bodies expr.place expr 0
  have hf := getElem?_idxOf_byHeight h
  rwa [hp] at hf

end Expr

-- ---------------------------------------------------------------------------
-- References
-- ---------------------------------------------------------------------------

mutual
/-- The places that are looked up for a filter, with the height and the body
of the group that each stands for. -/
def Filter.references : Filter → List (Nat × (Nat × Filter))
  | .leaf _ => []
  | .chain _ parts => Filter.referencesOfParts parts
  | .reference place height body => [(place, (height, body))]
  | .scope _ _ => []
def Filter.referencesOfParts : List Filter → List (Nat × (Nat × Filter))
  | [] => []
  | part :: rest => part.references ++ Filter.referencesOfParts rest
end

def RefersTo (place : Nat → Nat) (start : Nat) (groups : List (Nat × Filter))
    (reference : Nat × (Nat × Filter)) : Prop :=
  ∃ offset, reference.1 = place (start + offset) ∧ groups[offset]? = some reference.2

namespace RefersTo

variable {place : Nat → Nat} {start : Nat} {groups : List (Nat × Filter)}
  {reference : Nat × (Nat × Filter)}

theorem mem (h : RefersTo place start groups reference) : reference.2 ∈ groups := by
  obtain ⟨offset, -, hg⟩ := h
  exact List.mem_of_getElem? hg

theorem append (h : RefersTo place start groups reference) (more : List (Nat × Filter)) :
    RefersTo place start (groups ++ more) reference := by
  obtain ⟨offset, hp, hg⟩ := h
  refine ⟨offset, hp, ?_⟩
  rw [List.getElem?_append_left (List.getElem?_eq_some_iff.mp hg).1]
  exact hg

theorem prepend {more : List (Nat × Filter)} (hl : more.length = count)
    (h : RefersTo place (start + count) groups reference) :
    RefersTo place start (more ++ groups) reference := by
  obtain ⟨offset, hp, hg⟩ := h
  refine ⟨more.length + offset, by rw [← Nat.add_assoc, hl]; exact hp, ?_⟩
  rw [List.getElem?_append_right (Nat.le_add_right _ _), Nat.add_sub_cancel_left]
  exact hg

theorem concat (group : Nat × Filter) :
    RefersTo place start (groups ++ [group]) (place (start + groups.length), group) :=
  ⟨groups.length, rfl, List.getElem?_concat_length⟩

end RefersTo

namespace Expr

variable (place : Nat → Nat)

mutual
/-- What stands outside all groups refers to groups of the expression. -/
theorem refersTo_toFilter : (expr : Expr Leaf) → (start : Nat) →
    ∀ reference ∈ (expr.toFilter place start).references,
      RefersTo place start (expr.bodies place start) reference
  | leaf _, _ => by simp [toFilter, Filter.references]
  | join _ parts, start => refersTo_toFilters parts start
  | group body, start => by
    intro reference hr
    rw [toFilter, Filter.references, List.mem_singleton] at hr
    rw [hr, ← body.length_bodies place start]
    exact .concat _
theorem refersTo_toFilters : (parts : List (Expr Leaf)) → (start : Nat) →
    ∀ reference ∈ Filter.referencesOfParts (toFilters place start parts),
      RefersTo place start (bodiesOfParts place start parts) reference
  | [], _ => by simp [toFilters, Filter.referencesOfParts]
  | part :: rest, start => by
    intro reference hr
    rw [toFilters, Filter.referencesOfParts, List.mem_append] at hr
    rw [bodiesOfParts]
    rcases hr with hr | hr
    · exact (part.refersTo_toFilter start reference hr).append _
    · exact .prepend (part.length_bodies place start) (refersTo_toFilters rest _ reference hr)
end

mutual
/-- What stands inside a group refers to lower groups of the expression. -/
theorem refersTo_bodies : (expr : Expr Leaf) → (start : Nat) →
    ∀ group ∈ expr.bodies place start, ∀ reference ∈ group.2.references,
      RefersTo place start (expr.bodies place start) reference ∧ reference.2.1 < group.1
  | leaf _, _ => by simp [bodies]
  | join _ parts, start => refersTo_bodiesOfParts parts start
  | group body, start => by
    intro group hg reference hr
    rw [bodies, List.mem_append, List.mem_singleton] at hg
    rw [bodies]
    rcases hg with hg | rfl
    · obtain ⟨hb, hl⟩ := body.refersTo_bodies start group hg reference hr
      exact ⟨hb.append _, hl⟩
    · have hb := body.refersTo_toFilter place start reference hr
      refine ⟨hb.append _, Nat.lt_succ_of_le (body.le_height _ ?_)⟩
      rw [← body.heights_bodies place start]
      exact List.mem_map_of_mem hb.mem
theorem refersTo_bodiesOfParts : (parts : List (Expr Leaf)) → (start : Nat) →
    ∀ group ∈ bodiesOfParts place start parts, ∀ reference ∈ group.2.references,
      RefersTo place start (bodiesOfParts place start parts) reference ∧ reference.2.1 < group.1
  | [], _ => by simp [bodiesOfParts]
  | part :: rest, start => by
    intro group hg reference hr
    rw [bodiesOfParts, List.mem_append] at hg
    rw [bodiesOfParts]
    rcases hg with hg | hg
    · obtain ⟨hb, hl⟩ := part.refersTo_bodies start group hg reference hr
      exact ⟨hb.append _, hl⟩
    · obtain ⟨hb, hl⟩ := refersTo_bodiesOfParts rest _ group hg reference hr
      exact ⟨.prepend (part.length_bodies place start) hb, hl⟩
end

end Expr

-- ---------------------------------------------------------------------------
-- Scopes
-- ---------------------------------------------------------------------------

/-- Every reference stands for the group in its place, and inside a group it
stands for an earlier one. -/
structure WellPlaced (body : Filter) (groups : List (Nat × Filter)) : Prop where
  outside : ∀ reference ∈ body.references, groups[reference.1]? = some reference.2
  inside : ∀ (place : Nat) (group : Nat × Filter), groups[place]? = some group →
    ∀ reference ∈ group.2.references, reference.1 < place ∧ groups[reference.1]? = some reference.2

namespace Expr

theorem getElem?_of_refersTo {expr : Expr Leaf} {reference : Nat × (Nat × Filter)}
    (h : RefersTo expr.place 0 expr.placed reference) :
    (byHeight expr.placed)[reference.1]? = some reference.2 := by
  obtain ⟨offset, hp, hg⟩ := h
  rw [hp, Nat.zero_add, expr.getElem?_place (List.getElem?_eq_some_iff.mp hg).1]
  exact hg

theorem wellPlaced (expr : Expr Leaf) : WellPlaced expr.body (byHeight expr.placed) where
  outside reference hr := getElem?_of_refersTo (expr.refersTo_toFilter expr.place 0 reference hr)
  inside place group hg reference hr := by
    have hm := (byHeight_perm expr.placed).mem_iff.mp (List.mem_of_getElem? hg)
    obtain ⟨hb, hl⟩ := expr.refersTo_bodies expr.place 0 group hm reference hr
    have hp := getElem?_of_refersTo hb
    exact ⟨lt_of_height_lt hp hg hl, hp⟩

end Expr

end RecordQuery
