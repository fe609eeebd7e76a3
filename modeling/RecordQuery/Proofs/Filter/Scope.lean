import RecordQuery.Proofs.Attempt
import RecordQuery.Proofs.Filter.Places

/-!
# Scopes

Evaluating the groups of a scope in order, and looking their verdicts up, is
the same as evaluating every group by itself: the first failure of a group
is the failure of the scope, and if no group fails the scope does what its
body does with every group evaluated where it stands.
-/

namespace RecordQuery

namespace Filter

def verdictOf (record : Record) (group : Nat × Filter) : Except Failure Bool :=
  group.2.apply record

def IsKnown (record : Record) (verdicts : List Bool) (reference : Nat × (Nat × Filter)) : Prop :=
  ∃ verdict, verdicts[reference.1]? = some verdict ∧
    verdictOf record reference.2 = .ok verdict

section
variable {record : Record} {verdicts : List Bool}

mutual
theorem run_known : (filter : Filter) →
    (∀ reference ∈ filter.references, IsKnown record verdicts reference) →
    filter.run record (some verdicts) = filter.run record none
  | leaf _, _ => rfl
  | chain _ [], _ => rfl
  | chain connective (part :: rest), h => runChain_known connective.settling (part :: rest) h
  | reference place height body, h => by
    obtain ⟨verdict, hv, hb⟩ := h (place, (height, body)) (List.mem_singleton.mpr rfl)
    have hr : body.run record none = .ok verdict := hb
    rw [run, run, hr]
    simp only [hv]
  | scope _ _, _ => rfl
theorem runChain_known (settling : Bool) : (parts : List Filter) →
    (∀ reference ∈ referencesOfParts parts, IsKnown record verdicts reference) →
    runChain record (some verdicts) settling parts = runChain record none settling parts
  | [], _ => rfl
  | part :: rest, h => by
    have hp := part.run_known fun reference hr => h reference (List.mem_append_left _ hr)
    have ht := runChain_known settling rest fun reference hr =>
      h reference (List.mem_append_right _ hr)
    rw [runChain, runChain, hp, ht]
end

theorem isKnown_of_placed {done rest : List (Nat × Filter)} {group : Nat × Filter}
    (hw : WellPlaced body (done ++ group :: rest))
    (hd : done.mapM (verdictOf record) = .ok verdicts) :
    ∀ reference ∈ group.2.references, IsKnown record verdicts reference := by
  intro reference hr
  have hg : (done ++ group :: rest)[done.length]? = some group := by
    rw [List.getElem?_append_right (Nat.le_refl _), Nat.sub_self]
    rfl
  obtain ⟨hl, hp⟩ := hw.inside done.length group hg reference hr
  rw [List.getElem?_append_left hl] at hp
  exact Attempt.getElem?_of_mapM hd hp

/-- The verdicts collected so far are those the groups have by themselves,
and so are the ones still to come. -/
theorem runGroups_placed {done rest : List (Nat × Filter)} (hw : WellPlaced body (done ++ rest))
    (hd : done.mapM (verdictOf record) = .ok verdicts) :
    runGroups record verdicts rest = (done ++ rest).mapM (verdictOf record) := by
  induction rest generalizing done verdicts with
  | nil =>
    rw [List.append_nil, hd]
    rfl
  | cons group rest ih =>
    obtain ⟨height, inner⟩ := group
    have hk := inner.run_known (isKnown_of_placed hw hd)
    rw [runGroups, hk]
    cases hv : verdictOf record (height, inner) with
    | error failure =>
      have hr : inner.run record none = .error failure := hv
      rw [hr, Attempt.mapM_first_error (fun _ => Attempt.ok_of_mapM hd) hv]
      rfl
    | ok verdict =>
      have hr : inner.run record none = .ok verdict := hv
      have hn : (done ++ [(height, inner)]).mapM (verdictOf record) = .ok (verdicts ++ [verdict]) := by
        rw [List.mapM_append, hd, Attempt.mapM_cons_ok hv]
        rfl
      rw [List.append_cons] at hw ⊢
      rw [hr]
      exact ih hw hn

end

section
variable {body : Filter} {groups : List (Nat × Filter)}

theorem runGroups_wellPlaced (hw : WellPlaced body groups) (record : Record) :
    runGroups record [] groups = groups.mapM (verdictOf record) := by
  have hn : ([] : List (Nat × Filter)).mapM (verdictOf record) = .ok [] := rfl
  exact runGroups_placed hw hn

theorem apply_scope_error (hw : WellPlaced body groups) {record : Record} {failure : Failure}
    (h : groups.mapM (verdictOf record) = .error failure) :
    (scope body groups).apply record = .error failure := by
  have hr : runGroups record [] groups = .error failure :=
    (runGroups_wellPlaced hw record).trans h
  rw [apply, run, hr]
  rfl

theorem apply_scope_ok (hw : WellPlaced body groups) {record : Record} {verdicts : List Bool}
    (h : groups.mapM (verdictOf record) = .ok verdicts) :
    (scope body groups).apply record = body.apply record := by
  have hr : runGroups record [] groups = .ok verdicts :=
    (runGroups_wellPlaced hw record).trans h
  have hk : ∀ reference ∈ body.references, IsKnown record verdicts reference := fun reference hm =>
    Attempt.getElem?_of_mapM h (hw.outside reference hm)
  rw [apply, run, hr]
  exact body.run_known hk

end

-- ---------------------------------------------------------------------------
-- Scopes of queries
-- ---------------------------------------------------------------------------

theorem ofExpr_of_parse {text : List Char} {filter : Filter} (h : parse text = .ok filter) :
    filter = literal true ∨ ∃ expr, filter = ofExpr expr := by
  by_cases hn : Text.normalize text = []
  · rw [parse, hn] at h
    exact .inl (Except.ok.inj h).symm
  · rw [parse_of_ne_nil hn, parseGroup] at h
    obtain ⟨expr, -, he⟩ := Attempt.bind_ok.mp h
    exact .inr ⟨expr, (Except.ok.inj he).symm⟩

theorem wellPlaced_of_parse {text : List Char} {body : Filter} {groups : List (Nat × Filter)}
    (h : parse text = .ok (scope body groups)) : WellPlaced body groups := by
  rcases ofExpr_of_parse h with he | ⟨expr, he⟩
  · cases he
  · rcases ofExpr_cases expr with ⟨-, hb⟩ | hs
    · -- The body of an expression is no scope.
      rw [hb] at he
      cases expr <;> cases he
    · rw [hs] at he
      injection he with hb hg
      rw [hb, hg]
      exact expr.wellPlaced

/-- The verdict of a scope is settled by what its groups and its body give
when every group is evaluated where it stands: the first group to fail, in
the order of evaluation, fails the scope, and if none fails the scope gives
what the body gives. -/
theorem apply_scope_of_parse {text : List Char} {body : Filter} {groups : List (Nat × Filter)}
    (h : parse text = .ok (scope body groups)) (record : Record) :
    (∀ before group after failure, groups = before ++ group :: after →
      (∀ earlier ∈ before, ∃ verdict, verdictOf record earlier = .ok verdict) →
      verdictOf record group = .error failure →
      (scope body groups).apply record = .error failure) ∧
    ((∀ group ∈ groups, ∃ verdict, verdictOf record group = .ok verdict) →
      (scope body groups).apply record = body.apply record) := by
  have hw := wellPlaced_of_parse h
  refine ⟨fun before group after failure hg hb hf => ?_, fun hg => ?_⟩
  · subst hg
    exact apply_scope_error hw (Attempt.mapM_first_error hb hf)
  · obtain ⟨verdicts, hv⟩ := Attempt.exists_mapM hg
    exact apply_scope_ok hw hv

/-- A scope whose body would be settled without its group. -/
theorem parse_true_or_group :
    parse "true OR (x)".toList = .ok (.scope
      (.chain .or [literal true, .reference 0 1 (.leaf (.invalid "x"))])
      [(1, .leaf (.invalid "x"))]) := by
  have hx : Expr.ofText "x".toList = .leaf "x".toList := by
    rw [Expr.ofText_eq]
    rfl
  have ht : Expr.ofText "true OR (x)".toList =
      .join .or [.leaf "true".toList, .group (Expr.ofText "x".toList)] := by
    rw [Expr.ofText_eq]
    rfl
  have hn : Text.normalize "true OR (x)".toList = "true OR (x)".toList := rfl
  rw [parse_of_ne_nil (by decide), parseGroup, hn, ht, hx]
  rfl

theorem apply_true_or_group :
    parse "true OR (x)".toList = .ok (.scope
      (.chain .or [literal true, .reference 0 1 (.leaf (.invalid "x"))])
      [(1, .leaf (.invalid "x"))]) ∧
    (Filter.scope (.chain .or [literal true, .reference 0 1 (.leaf (.invalid "x"))])
      [(1, .leaf (.invalid "x"))]).apply [] = .error (.invalidCondition "x") := by
  refine ⟨parse_true_or_group, ?_⟩
  exact (apply_scope_of_parse parse_true_or_group []).1 [] (1, .leaf (.invalid "x")) []
    (.invalidCondition "x") rfl (by simp) rfl

end Filter

end RecordQuery
