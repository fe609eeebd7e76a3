import RecordQuery.Proofs.Filter.Scope

/-!
# Verdicts of expressions

What an expression says about a record, without a scope: its groups are
evaluated in order, and then the expression itself, whose parts settle it
from left to right. The filter made from the expression says the same.
-/

namespace RecordQuery

namespace Expr

mutual
/-- The verdict with every group evaluated where it stands. -/
def verdict (record : Record) : Expr Leaf → Except Failure Bool
  | leaf content => content.holds record
  | join _ [] => .ok true
  | join connective (part :: rest) =>
    verdictOfParts record connective.settling (part :: rest)
  | group body => body.verdict record
def verdictOfParts (record : Record) (settling : Bool) :
    List (Expr Leaf) → Except Failure Bool
  | [] => .ok !settling
  | part :: rest => do
    if (← part.verdict record) == settling then .ok settling
    else verdictOfParts record settling rest
end

mutual
/-- Heights and verdicts of all groups; a group follows those inside it. -/
def groupVerdicts (record : Record) : Expr Leaf → List (Nat × Except Failure Bool)
  | leaf _ => []
  | join _ parts => groupVerdictsOfParts record parts
  | group body => body.groupVerdicts record ++ [(body.height + 1, body.verdict record)]
def groupVerdictsOfParts (record : Record) :
    List (Expr Leaf) → List (Nat × Except Failure Bool)
  | [] => []
  | part :: rest => part.groupVerdicts record ++ groupVerdictsOfParts record rest
end

/-- The verdict, once no group has failed. -/
def evaluate (record : Record) (expr : Expr Leaf) : Except Failure Bool := do
  let _ ← (byHeight (expr.groupVerdicts record)).mapM Prod.snd
  expr.verdict record

-- ---------------------------------------------------------------------------
-- Filters of expressions
-- ---------------------------------------------------------------------------

section
variable (place : Nat → Nat) (record : Record)

mutual
theorem apply_toFilter : (expr : Expr Leaf) → (start : Nat) →
    (expr.toFilter place start).apply record = expr.verdict record
  | leaf _, _ => rfl
  | join _ [], _ => rfl
  | join connective (part :: rest), start =>
    runChain_toFilters connective.settling (part :: rest) start
  | group body, start => body.apply_toFilter start
theorem runChain_toFilters (settling : Bool) : (parts : List (Expr Leaf)) → (start : Nat) →
    Filter.runChain record none settling (toFilters place start parts) =
      verdictOfParts record settling parts
  | [], _ => rfl
  | part :: rest, start => by
    have hp : (part.toFilter place start).run record none = part.verdict record :=
      part.apply_toFilter start
    rw [toFilters, Filter.runChain, verdictOfParts, hp, runChain_toFilters settling rest]
end

mutual
theorem verdicts_bodies : (expr : Expr Leaf) → (start : Nat) →
    (expr.bodies place start).map (fun group => (group.1, Filter.verdictOf record group)) =
      expr.groupVerdicts record
  | leaf _, _ => rfl
  | join _ parts, start => verdicts_bodiesOfParts parts start
  | group body, start => by
    rw [bodies, groupVerdicts, List.map_append, body.verdicts_bodies start, List.map_singleton,
      Filter.verdictOf, body.apply_toFilter]
theorem verdicts_bodiesOfParts : (parts : List (Expr Leaf)) → (start : Nat) →
    (bodiesOfParts place start parts).map
        (fun group => (group.1, Filter.verdictOf record group)) =
      groupVerdictsOfParts record parts
  | [], _ => rfl
  | part :: rest, start => by
    rw [bodiesOfParts, groupVerdictsOfParts, List.map_append, part.verdicts_bodies start,
      verdicts_bodiesOfParts rest]
end

end

theorem mapM_verdictOf (expr : Expr Leaf) (record : Record) :
    (byHeight expr.placed).mapM (Filter.verdictOf record) =
      (byHeight (expr.groupVerdicts record)).mapM Prod.snd := by
  rw [← expr.verdicts_bodies expr.place record 0, byHeight_map, List.mapM_map]
  rfl

theorem apply_ofExpr (expr : Expr Leaf) (record : Record) :
    (Filter.ofExpr expr).apply record = expr.evaluate record := by
  have hb : expr.body.apply record = expr.verdict record := expr.apply_toFilter expr.place record 0
  have hm := expr.mapM_verdictOf record
  rw [evaluate, ← hm, ← hb]
  rcases Filter.ofExpr_cases expr with ⟨hn, he⟩ | he
  · rw [he, hn]
    rfl
  · rw [he]
    cases hg : (byHeight expr.placed).mapM (Filter.verdictOf record) with
    | error failure => exact Filter.apply_scope_error expr.wellPlaced hg
    | ok verdicts => exact Filter.apply_scope_ok expr.wellPlaced hg

-- ---------------------------------------------------------------------------
-- When there is a verdict
-- ---------------------------------------------------------------------------

def Settled (record : Record) (expr : Expr Leaf) : Prop :=
  ∀ outcome ∈ expr.groupVerdicts record, ∃ verdict, outcome.2 = .ok verdict

theorem evaluate_eq_ok {expr : Expr Leaf} {record : Record} {verdict : Bool} :
    expr.evaluate record = .ok verdict ↔
      expr.Settled record ∧ expr.verdict record = .ok verdict := by
  have hp := byHeight_perm (expr.groupVerdicts record)
  cases hm : (byHeight (expr.groupVerdicts record)).mapM Prod.snd with
  | error failure =>
    rw [evaluate, hm]
    refine ⟨fun h => (by cases h), fun h => ?_⟩
    obtain ⟨verdicts, hv⟩ := Attempt.exists_mapM fun outcome ho => h.1 outcome (hp.mem_iff.mp ho)
    rw [hm] at hv
    cases hv
  | ok verdicts =>
    rw [evaluate, hm]
    refine ⟨fun h => ⟨fun outcome ho => ?_, h⟩, fun h => h.2⟩
    exact Attempt.ok_of_mapM hm (hp.mem_iff.mpr ho)

theorem heights_groupVerdicts (expr : Expr Leaf) (record : Record) :
    (expr.groupVerdicts record).map Prod.fst = expr.heights := by
  rw [← expr.verdicts_bodies expr.place record 0, List.map_map]
  exact expr.heights_bodies expr.place 0

/-- The outermost group is evaluated last, so it changes nothing. -/
theorem evaluate_group (expr : Expr Leaf) (record : Record) :
    (group expr).evaluate record = expr.evaluate record := by
  have hl : ∀ outcome ∈ expr.groupVerdicts record,
      outcome.1 < (expr.height + 1, expr.verdict record).1 := fun outcome ho => by
    refine Nat.lt_succ_of_le (expr.le_height _ ?_)
    rw [← expr.heights_groupVerdicts record]
    exact List.mem_map_of_mem ho
  rw [evaluate, evaluate, groupVerdicts, byHeight_concat hl, List.mapM_append, verdict]
  cases (byHeight (expr.groupVerdicts record)).mapM Prod.snd with
  | error failure => rfl
  | ok verdicts => cases expr.verdict record <;> rfl

theorem settled_group {expr : Expr Leaf} {record : Record} :
    (group expr).Settled record ↔
      expr.Settled record ∧ ∃ verdict, expr.verdict record = .ok verdict := by
  simp only [Settled, groupVerdicts, List.forall_mem_append, List.forall_mem_singleton]

end Expr

def Connective.combine : Connective → Bool → Bool → Bool
  | and, first, second => first && second
  | or, first, second => first || second

namespace Expr

theorem verdict_pair {connective : Connective} {first second : Expr Leaf} {record : Record}
    (hf : first.verdict record = .ok x) (hs : second.verdict record = .ok y) :
    (join connective [group first, group second]).verdict record =
      .ok (connective.combine x y) := by
  rw [verdict, verdictOfParts, verdictOfParts, verdict, verdict, hf, hs]
  cases connective <;> cases x <;> cases y <;> rfl

theorem evaluate_pair {connective : Connective} {first second : Expr Leaf} {record : Record}
    {verdict : Bool} :
    (join connective [group first, group second]).evaluate record = .ok verdict ↔
      ∃ x y, first.evaluate record = .ok x ∧ second.evaluate record = .ok y ∧
        verdict = connective.combine x y := by
  have hs : (join connective [group first, group second]).Settled record ↔
      (group first).Settled record ∧ (group second).Settled record := by
    simp only [Settled, groupVerdicts, groupVerdictsOfParts, List.append_nil,
      List.forall_mem_append]
  rw [evaluate_eq_ok, hs, settled_group, settled_group]
  constructor
  · rintro ⟨⟨⟨hf, x, hx⟩, hg, y, hy⟩, hv⟩
    rw [verdict_pair hx hy] at hv
    exact ⟨x, y, evaluate_eq_ok.mpr ⟨hf, hx⟩, evaluate_eq_ok.mpr ⟨hg, hy⟩, (Except.ok.inj hv).symm⟩
  · rintro ⟨x, y, hf, hg, rfl⟩
    obtain ⟨hf, hx⟩ := evaluate_eq_ok.mp hf
    obtain ⟨hg, hy⟩ := evaluate_eq_ok.mp hg
    exact ⟨⟨⟨hf, x, hx⟩, hg, y, hy⟩, verdict_pair hx hy⟩

end Expr

end RecordQuery
