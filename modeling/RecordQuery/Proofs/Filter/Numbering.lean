import Mathlib.Data.List.Nodup
import Mathlib.Data.List.Perm.Subperm
import RecordQuery.Proofs.Filter.Failing

/-!
# Numbered groups

A scope lists every group that stands in its body, at any depth, just once
and at the place that the group is numbered with. Groups are listed by
height, and from left to right among those of one height, so a group comes
after all that are inside it, and no verdict is looked up before it is known.
-/

namespace RecordQuery

-- ---------------------------------------------------------------------------
-- Groups at any depth
-- ---------------------------------------------------------------------------

namespace Filter

mutual
/-- All groups that stand in a filter, with place, height and body, from left
to right. A group follows those inside it. -/
def nested : Filter → List (Nat × (Nat × Filter))
  | leaf _ => []
  | chain _ parts => nestedOfParts parts
  | reference place height body => body.nested ++ [(place, (height, body))]
  | scope body _ => body.nested
def nestedOfParts : List Filter → List (Nat × (Nat × Filter))
  | [] => []
  | part :: rest => part.nested ++ nestedOfParts rest
end

def highest : List (Nat × (Nat × Filter)) → Nat
  | [] => 0
  | group :: rest => max group.2.1 (highest rest)

theorem highest_append (first second : List (Nat × (Nat × Filter))) :
    highest (first ++ second) = max (highest first) (highest second) := by
  induction first with
  | nil => exact (Nat.zero_max _).symm
  | cons group rest ih => rw [List.cons_append, highest, highest, ih, Nat.max_assoc]

theorem le_highest {reference : Nat × (Nat × Filter)} {references : List (Nat × (Nat × Filter))}
    (h : reference ∈ references) : reference.2.1 ≤ highest references := by
  obtain ⟨before, after, rfl⟩ := List.append_of_mem h
  rw [highest_append, highest]
  omega

mutual
theorem nested_trans {inner outer : Nat × (Nat × Filter)} (hi : inner ∈ outer.2.2.nested) :
    (filter : Filter) → outer ∈ filter.nested → inner ∈ filter.nested
  | leaf _, ho => by cases ho
  | chain _ parts, ho => nestedOfParts_trans hi parts ho
  | reference place height body, ho => by
    rw [nested, List.mem_append, List.mem_singleton] at ho ⊢
    refine .inl ?_
    rcases ho with ho | rfl
    · exact nested_trans hi body ho
    · exact hi
  | scope body _, ho => nested_trans hi body ho
theorem nestedOfParts_trans {inner outer : Nat × (Nat × Filter)} (hi : inner ∈ outer.2.2.nested) :
    (parts : List Filter) → outer ∈ nestedOfParts parts → inner ∈ nestedOfParts parts
  | [], ho => by cases ho
  | part :: rest, ho => by
    rw [nestedOfParts, List.mem_append] at ho ⊢
    exact ho.imp (nested_trans hi part) (nestedOfParts_trans hi rest)
end

end Filter

namespace Expr

section
variable (place : Nat → Nat)

mutual
/-- The groups of an expression stand in its filter in the same order, each
with the place of its number. -/
theorem nested_toFilter : (expr : Expr Leaf) → (start : Nat) →
    (expr.toFilter place start).nested =
      ((expr.bodies place start).zipIdx start).map fun group => (place group.2, group.1)
  | leaf _, _ => rfl
  | join _ parts, start => nestedOfParts_toFilters parts start
  | group body, start => by
    rw [toFilter, Filter.nested, bodies, body.nested_toFilter start, List.zipIdx_append,
      List.map_append, body.length_bodies]
    rfl
theorem nestedOfParts_toFilters : (parts : List (Expr Leaf)) → (start : Nat) →
    Filter.nestedOfParts (toFilters place start parts) =
      ((bodiesOfParts place start parts).zipIdx start).map fun group => (place group.2, group.1)
  | [], _ => rfl
  | part :: rest, start => by
    rw [toFilters, Filter.nestedOfParts, bodiesOfParts, part.nested_toFilter start,
      nestedOfParts_toFilters rest, List.zipIdx_append, List.map_append, part.length_bodies]
end

mutual
theorem highest_toFilter : (expr : Expr Leaf) → (start : Nat) →
    Filter.highest (expr.toFilter place start).nested = expr.height
  | leaf _, _ => rfl
  | join _ parts, start => highest_toFilters parts start
  | group body, start => by
    rw [toFilter, Filter.nested, Filter.highest_append, body.highest_toFilter start, height]
    show max body.height (max (body.height + 1) 0) = body.height + 1
    omega
theorem highest_toFilters : (parts : List (Expr Leaf)) → (start : Nat) →
    Filter.highest (Filter.nestedOfParts (toFilters place start parts)) = heightOfParts parts
  | [], _ => rfl
  | part :: rest, start => by
    rw [toFilters, Filter.nestedOfParts, Filter.highest_append, part.highest_toFilter start,
      highest_toFilters rest, heightOfParts]
end

mutual
theorem heights_toFilter : (expr : Expr Leaf) → (start : Nat) →
    ∀ reference ∈ (expr.toFilter place start).nested,
      reference.2.1 = 1 + Filter.highest reference.2.2.nested
  | leaf _, _ => by simp [toFilter, Filter.nested]
  | join _ parts, start => heights_toFilters parts start
  | group body, start => by
    intro reference hr
    rw [toFilter, Filter.nested, List.mem_append, List.mem_singleton] at hr
    rcases hr with hr | rfl
    · exact body.heights_toFilter start reference hr
    · show body.height + 1 = 1 + Filter.highest (body.toFilter place start).nested
      rw [body.highest_toFilter place start, Nat.add_comm]
theorem heights_toFilters : (parts : List (Expr Leaf)) → (start : Nat) →
    ∀ reference ∈ Filter.nestedOfParts (toFilters place start parts),
      reference.2.1 = 1 + Filter.highest reference.2.2.nested
  | [], _ => by simp [toFilters, Filter.nestedOfParts]
  | part :: rest, start => by
    intro reference hr
    rw [toFilters, Filter.nestedOfParts, List.mem_append] at hr
    rcases hr with hr | hr
    · exact part.heights_toFilter start reference hr
    · exact heights_toFilters rest _ reference hr
end

end

-- ---------------------------------------------------------------------------
-- Places
-- ---------------------------------------------------------------------------

theorem length_placed (expr : Expr Leaf) : expr.placed.length = expr.heights.length := by
  rw [placed, length_bodies, length_heights]

theorem nested_body (expr : Expr Leaf) :
    expr.body.nested = expr.placed.zipIdx.map fun group => (expr.place group.2, group.1) :=
  expr.nested_toFilter expr.place 0

theorem mem_nested_body {expr : Expr Leaf} {reference : Nat × (Nat × Filter)} :
    reference ∈ expr.body.nested ↔
      ∃ number, reference.1 = expr.place number ∧ expr.placed[number]? = some reference.2 := by
  rw [nested_body, List.mem_map]
  constructor
  · rintro ⟨⟨group, number⟩, hg, rfl⟩
    exact ⟨number, rfl, List.mk_mem_zipIdx_iff_getElem?.mp hg⟩
  · rintro ⟨number, hp, hg⟩
    exact ⟨(reference.2, number), List.mk_mem_zipIdx_iff_getElem?.mpr hg, by rw [← hp]⟩

theorem getElem?_of_mem_nested {expr : Expr Leaf} {reference : Nat × (Nat × Filter)}
    (h : reference ∈ expr.body.nested) :
    (byHeight expr.placed)[reference.1]? = some reference.2 := by
  obtain ⟨number, hp, hg⟩ := mem_nested_body.mp h
  rw [hp, expr.getElem?_place (List.getElem?_eq_some_iff.mp hg).1, hg]

theorem heights_placed (expr : Expr Leaf) : expr.placed.map Prod.fst = expr.heights :=
  expr.heights_bodies expr.place 0

theorem place_inj {expr : Expr Leaf} {first second : Nat} (hf : first < expr.placed.length)
    (h : expr.place first = expr.place second) : first = second := by
  rw [length_placed] at hf
  exact (List.idxOf_inj (mem_numbersByHeight hf)).mp h

end Expr

namespace Filter

/-- The references to the groups of a scope, in order. -/
def numbered (groups : List (Nat × Filter)) : List (Nat × (Nat × Filter)) :=
  groups.zipIdx.map fun group => (group.2, group.1)

theorem mem_numbered {groups : List (Nat × Filter)} {reference : Nat × (Nat × Filter)} :
    reference ∈ numbered groups ↔ groups[reference.1]? = some reference.2 := by
  rw [numbered, List.mem_map]
  constructor
  · rintro ⟨⟨group, number⟩, hg, rfl⟩
    exact List.mk_mem_zipIdx_iff_getElem?.mp hg
  · intro h
    exact ⟨(reference.2, reference.1), List.mk_mem_zipIdx_iff_getElem?.mpr h, rfl⟩

structure WellFormed (filter : Filter) : Prop where
  /-- The groups in the list are those that stand in the filter, each once and
  with its place for a number. -/
  listed : filter.nested.Perm (numbered filter.groups)
  heights : ∀ reference ∈ filter.nested, reference.2.1 = 1 + highest reference.2.2.nested
  sorted : filter.groups.Pairwise fun first second => first.1 ≤ second.1
  textual : filter.nested.Pairwise fun first second =>
    first.2.1 = second.2.1 → first.1 < second.1
  inward : ∀ outer ∈ filter.nested, ∀ inner ∈ outer.2.2.nested, inner.1 < outer.1

end Filter

namespace Expr

theorem nodup_nested (expr : Expr Leaf) : expr.body.nested.Nodup := by
  have hp : expr.body.nested.map Prod.fst = (List.range expr.placed.length).map expr.place := by
    rw [nested_body, List.map_map, List.range_eq_range', ← List.zipIdx_map_snd, List.map_map]
    rfl
  refine List.Nodup.of_map Prod.fst ?_
  rw [hp]
  refine List.Nodup.map_on (fun first hf second _ => ?_) List.nodup_range
  exact place_inj (List.mem_range.mp hf)

theorem nested_perm (expr : Expr Leaf) :
    expr.body.nested.Perm (Filter.numbered (byHeight expr.placed)) := by
  have hs : expr.body.nested ⊆ Filter.numbered (byHeight expr.placed) := fun reference hr =>
    Filter.mem_numbered.mpr (getElem?_of_mem_nested hr)
  have hl : (Filter.numbered (byHeight expr.placed)).length = expr.body.nested.length := by
    rw [Filter.numbered, nested_body, List.length_map, List.length_map, List.length_zipIdx,
      List.length_zipIdx, (byHeight_perm expr.placed).length_eq]
  exact (List.subperm_of_subset expr.nodup_nested hs).perm_of_length_le (Nat.le_of_eq hl)

theorem textual_body (expr : Expr Leaf) : expr.body.nested.Pairwise fun first second =>
    first.2.1 = second.2.1 → first.1 < second.1 := by
  have hg : ∀ group ∈ expr.placed.zipIdx, expr.heights[group.2]? = some group.1.1 := by
    intro group hm
    rw [← heights_placed, List.getElem?_map, List.mem_zipIdx_iff_getElem?.mp hm]
    rfl
  rw [nested_body, List.pairwise_map]
  refine (zipIdx_pairwise expr.placed).imp_of_mem fun {first second} hf hs hl he => ?_
  refine idxOf_lt_idxOf_byHeight (hg first hf) ?_ hl
  rw [hg second hs]
  exact congrArg some he.symm

theorem nested_ofExpr (expr : Expr Leaf) : (Filter.ofExpr expr).nested = expr.body.nested := by
  rcases Filter.ofExpr_cases expr with ⟨-, he⟩ | he <;> rw [he]
  rfl

theorem wellFormed_ofExpr (expr : Expr Leaf) : (Filter.ofExpr expr).WellFormed := by
  refine ⟨?_, ?_, ?_, ?_, ?_⟩
  · rw [expr.nested_ofExpr, Filter.groups_ofExpr]
    exact expr.nested_perm
  · rw [expr.nested_ofExpr]
    exact expr.heights_toFilter expr.place 0
  · rw [Filter.groups_ofExpr]
    exact byHeight_sorted expr.placed
  · rw [expr.nested_ofExpr]
    exact expr.textual_body
  · rw [expr.nested_ofExpr]
    intro outer ho inner hi
    refine lt_of_height_lt (getElem?_of_mem_nested (Filter.nested_trans hi expr.body ho))
      (getElem?_of_mem_nested ho) ?_
    have := Filter.le_highest hi
    rw [expr.heights_toFilter expr.place 0 outer ho]
    omega

end Expr

-- ---------------------------------------------------------------------------
-- Verdicts that are looked up
-- ---------------------------------------------------------------------------

namespace Filter

/-- Verdicts are looked up only once they are known. -/
structure Known (filter : Filter) (record : Record) : Prop where
  /-- When the turn of a group has come, the groups inside it are done. -/
  inside : ∀ (place : Nat) (group : Nat × Filter) (verdicts : List Bool),
    filter.groups[place]? = some group →
    runGroups record [] (filter.groups.take place) = .ok verdicts →
      ∀ reference ∈ group.2.nested, IsKnown record verdicts reference
  /-- When the turn of the body has come, all groups are done. -/
  outside : ∀ verdicts : List Bool, runGroups record [] filter.groups = .ok verdicts →
    ∀ reference ∈ filter.nested, IsKnown record verdicts reference
  found : filter.apply record ≠ .error .missingGroup

section
variable {body : Filter} {groups : List (Nat × Filter)}

theorem wellPlaced_take (hw : WellPlaced body groups) (count : Nat) :
    WellPlaced (literal true) (groups.take count) where
  outside reference hr := by cases hr
  inside place group hg reference hr := by
    have hc : place < count := by
      have := (List.getElem?_eq_some_iff.mp hg).1
      rw [List.length_take] at this
      omega
    rw [List.getElem?_take_of_lt hc] at hg
    obtain ⟨hl, hp⟩ := hw.inside place group hg reference hr
    exact ⟨hl, by rw [List.getElem?_take_of_lt (Nat.lt_trans hl hc), hp]⟩

theorem isKnown_of_take {record : Record} {verdicts : List Bool} {count : Nat}
    (hw : WellPlaced body groups)
    (hv : runGroups record [] (groups.take count) = .ok verdicts)
    {reference : Nat × (Nat × Filter)} (hg : groups[reference.1]? = some reference.2)
    (hl : reference.1 < count) : IsKnown record verdicts reference := by
  rw [runGroups_wellPlaced (wellPlaced_take hw count)] at hv
  rw [← List.getElem?_take_of_lt hl] at hg
  exact Attempt.getElem?_of_mapM hv hg

end

theorem WellFormed.known {filter body : Filter} (h : filter.WellFormed)
    (hw : WellPlaced body filter.groups) {record : Record}
    (hf : filter.apply record ≠ .error .missingGroup) : filter.Known record where
  inside place group verdicts hg hv reference hr := by
    have ho : (place, group) ∈ filter.nested := h.listed.mem_iff.mpr (mem_numbered.mpr hg)
    have hi := h.listed.mem_iff.mp (nested_trans hr filter ho)
    exact isKnown_of_take hw hv (mem_numbered.mp hi) (h.inward (place, group) ho reference hr)
  outside verdicts hv reference hr := by
    have hg := mem_numbered.mp (h.listed.mem_iff.mp hr)
    rw [← List.take_length (l := filter.groups)] at hv
    exact isKnown_of_take hw hv hg (List.getElem?_eq_some_iff.mp hg).1
  found := hf

theorem apply_ne_missingGroup {text : List Char} {filter : Filter} (h : parse text = .ok filter)
    (record : Record) : filter.apply record ≠ .error .missingGroup := by
  intro hf
  obtain ⟨leaf, -, hl⟩ := apply_error h hf
  rcases Leaf.holds_error hl with hc | ⟨_, -, hc⟩ <;> cases hc

/-- The groups of a compiled query are those that stand in it, each listed
once, by height and then from left to right, and numbered by their places. A
group comes after the groups inside it, so for every record a verdict is known
when it is looked up. -/
theorem wellFormed_of_parse {text : List Char} {filter : Filter} (h : parse text = .ok filter) :
    filter.WellFormed ∧ ∀ record, filter.Known record := by
  have hm := apply_ne_missingGroup h
  rcases ofExpr_of_parse h with rfl | ⟨expr, rfl⟩
  · have hw : WellFormed (literal true) :=
      ⟨.nil, fun _ hr => (by cases hr), .nil, .nil, fun _ ho => (by cases ho)⟩
    have hp : WellPlaced (literal true) [] :=
      ⟨fun _ hr => (by cases hr), fun _ _ hg => (by cases hg)⟩
    exact ⟨hw, fun record => hw.known hp (hm record)⟩
  · have hw := expr.wellFormed_ofExpr
    have hp := expr.wellPlaced
    rw [← groups_ofExpr] at hp
    exact ⟨hw, fun record => hw.known hp (hm record)⟩

/-- The first group to be closed is the innermost, the last one stands by
itself, and the one in between holds the first. -/
theorem wellFormed_nested_pair :
    ∃ filter, parse "((true) OR false) AND (x)".toList = .ok filter ∧
      filter.nested.map Prod.fst = [0, 2, 1] ∧ filter.groups.map Prod.fst = [1, 1, 2] ∧
      filter.WellFormed ∧ ∀ record, filter.Known record := by
  have ht : Expr.ofText "true".toList = .leaf "true".toList := by
    rw [Expr.ofText_eq]
    rfl
  have ho : Expr.ofText "(true) OR false".toList =
      .join .or [.group (Expr.ofText "true".toList), .leaf "false".toList] := by
    rw [Expr.ofText_eq]
    rfl
  have hx : Expr.ofText "x".toList = .leaf "x".toList := by
    rw [Expr.ofText_eq]
    rfl
  have ha : Expr.ofText "((true) OR false) AND (x)".toList =
      .join .and [.group (Expr.ofText "(true) OR false".toList),
        .group (Expr.ofText "x".toList)] := by
    rw [Expr.ofText_eq]
    rfl
  have hp : parse "((true) OR false) AND (x)".toList = .ok (.scope
      (.chain .and [
        .reference 2 2 (.chain .or [.reference 0 1 (literal true), literal false]),
        .reference 1 1 (.leaf (.invalid "x"))])
      [(1, literal true), (1, .leaf (.invalid "x")),
        (2, .chain .or [.reference 0 1 (literal true), literal false])]) := by
    have hn : Text.normalize "((true) OR false) AND (x)".toList =
        "((true) OR false) AND (x)".toList := rfl
    rw [parse_of_ne_nil (by decide), parseGroup, hn, ha, ho, ht, hx]
    rfl
  exact ⟨_, hp, rfl, rfl, wellFormed_of_parse hp⟩

end Filter

end RecordQuery
