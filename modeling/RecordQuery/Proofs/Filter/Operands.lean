import RecordQuery.Filter
import RecordQuery.Proofs.Attempt

/-!
# The order of operands

A chain evaluates its parts in order, so another order may reach a part that
fails where the first one stopped before it. That is all that can change: the
verdicts of two orders agree, and a chain without failing parts has one
verdict in every order. Groups are looked up among known verdicts or evaluated
where they stand, but in both orders alike.
-/

namespace RecordQuery

def Connective.overall : Connective → List Bool → Bool
  | and, verdicts => verdicts.all id
  | or, verdicts => verdicts.any id

namespace Filter

variable {record : Record} {known : Option (List Bool)} {connective : Connective}
  {settling verdict other : Bool} {failure : Failure} {first second parts : List Filter}

-- ---------------------------------------------------------------------------
-- How a chain ends
-- ---------------------------------------------------------------------------

def Passes (record : Record) (known : Option (List Bool)) (settling : Bool)
    (parts : List Filter) : Prop :=
  ∀ part ∈ parts, part.run record known = .ok !settling

/-- A part settles the chain, so the parts behind it are skipped. -/
structure Stops (record : Record) (known : Option (List Bool)) (settling : Bool)
    (parts skipped : List Filter) : Prop where
  settled : ∃ before settler, parts = before ++ settler :: skipped ∧
    Passes record known settling before ∧ settler.run record known = .ok settling

theorem Stops.cons {skipped : List Filter} {part : Filter}
    (hp : part.run record known = .ok !settling) (h : Stops record known settling parts skipped) :
    Stops record known settling (part :: parts) skipped := by
  obtain ⟨before, settler, rfl, hb, hs⟩ := h.settled
  exact ⟨part :: before, settler, rfl, List.forall_mem_cons.mpr ⟨hp, hb⟩, hs⟩

theorem runChain_ok (h : runChain record known settling parts = .ok verdict) :
    verdict = !settling ∧ Passes record known settling parts ∨
      verdict = settling ∧ ∃ skipped, Stops record known settling parts skipped := by
  induction parts with
  | nil =>
    refine .inl ⟨(Except.ok.inj h).symm, ?_⟩
    intro part hp
    cases hp
  | cons part rest ih =>
    rw [runChain, Attempt.bind_ok] at h
    obtain ⟨said, hp, h⟩ := h
    split at h
    · next hs =>
      obtain rfl : said = settling := by simpa using hs
      refine .inr ⟨(Except.ok.inj h).symm, rest, [], part, rfl, ?_, hp⟩
      intro part hp
      cases hp
    · next hs =>
      obtain rfl : said = !settling := Bool.eq_not.mpr (by simpa using hs)
      rcases ih h with ⟨hv, hr⟩ | ⟨hv, skipped, hr⟩
      · exact .inl ⟨hv, List.forall_mem_cons.mpr ⟨hp, hr⟩⟩
      · exact .inr ⟨hv, skipped, hr.cons hp⟩

theorem runChain_error (h : runChain record known settling parts = .error failure) :
    ∃ part ∈ parts, part.run record known = .error failure := by
  induction parts with
  | nil => cases h
  | cons part rest ih =>
    rw [runChain, Attempt.bind_error] at h
    rcases h with h | ⟨said, -, h⟩
    · exact ⟨part, List.mem_cons_self, h⟩
    · split at h
      · cases h
      · obtain ⟨failing, hm, hf⟩ := ih h
        exact ⟨failing, List.mem_cons_of_mem _ hm, hf⟩

theorem run_chain (hn : parts ≠ []) :
    (chain connective parts).run record known =
      runChain record known connective.settling parts := by
  cases parts with
  | nil => exact absurd rfl hn
  | cons part rest => rw [run]

theorem run_chain_nil : (chain connective []).run record known = .ok true := by rw [run]

-- ---------------------------------------------------------------------------
-- Chains in another order
-- ---------------------------------------------------------------------------

theorem Stops.exists_settler {skipped : List Filter}
    (h : Stops record known settling parts skipped) :
    ∃ part ∈ parts, part.run record known = .ok settling := by
  obtain ⟨before, settler, rfl, -, hs⟩ := h.settled
  exact ⟨settler, by simp, hs⟩

theorem Stops.mem_skipped {skipped : List Filter} {part : Filter}
    (h : Stops record known settling parts skipped) (hm : part ∈ parts)
    (hf : part.run record known = .error failure) : part ∈ skipped := by
  obtain ⟨before, settler, rfl, hb, hs⟩ := h.settled
  rcases List.mem_append.mp hm with hm | hm
  · rw [hb part hm] at hf
    cases hf
  · rcases List.mem_cons.mp hm with rfl | hm
    · rw [hs] at hf
      cases hf
    · exact hm

theorem not_passes_of_settles {part : Filter} (h : Passes record known settling parts)
    (hm : part ∈ parts) (hs : part.run record known = .ok settling) : False := by
  have hp := h part hm
  rw [hs] at hp
  cases settling <;> cases hp

/-- A chain is settled if and only if a part of it would settle it, wherever
the part stands. -/
theorem runChain_settling (h : runChain record known settling parts = .ok verdict) :
    verdict = settling ↔ ∃ part ∈ parts, part.run record known = .ok settling := by
  rcases runChain_ok h with ⟨rfl, hpass⟩ | ⟨rfl, skipped, hstop⟩
  · refine iff_of_false (by simp) ?_
    rintro ⟨part, hm, hs⟩
    exact not_passes_of_settles hpass hm hs
  · exact iff_of_true rfl hstop.exists_settler

theorem runChain_perm (hp : first.Perm second)
    (hf : runChain record known settling first = .ok verdict)
    (hs : runChain record known settling second = .ok other) : verdict = other := by
  have hv := runChain_settling hf
  simp only [hp.mem_iff] at hv
  have hb : verdict = settling ↔ other = settling := hv.trans (runChain_settling hs).symm
  revert hb
  cases verdict <;> cases other <;> cases settling <;> simp

theorem runChain_perm_error (hp : first.Perm second)
    (hf : runChain record known settling first = .ok verdict)
    (hs : runChain record known settling second = .error failure) :
    ∃ skipped, Stops record known settling first skipped ∧
      ∃ part ∈ skipped, part.run record known = .error failure := by
  obtain ⟨part, hm, hs⟩ := runChain_error hs
  rw [← hp.mem_iff] at hm
  rcases runChain_ok hf with ⟨-, hf⟩ | ⟨-, skipped, hf⟩
  · rw [hf part hm] at hs
    cases hs
  · exact ⟨skipped, hf, part, hf.mem_skipped hm hs, hs⟩

theorem exists_runChain (h : ∀ part ∈ parts, ∃ verdict, part.run record known = .ok verdict) :
    ∃ verdict, runChain record known settling parts = .ok verdict := by
  cases hr : runChain record known settling parts with
  | ok verdict => exact ⟨verdict, rfl⟩
  | error failure =>
    obtain ⟨part, hm, hf⟩ := runChain_error hr
    obtain ⟨verdict, hv⟩ := h part hm
    rw [hv] at hf
    cases hf

theorem runChain_overall {verdicts : List Bool}
    (h : parts.mapM (fun part => part.run record known) = .ok verdicts) :
    runChain record known connective.settling parts = .ok (connective.overall verdicts) := by
  induction parts generalizing verdicts with
  | nil =>
    obtain rfl : [] = verdicts := Except.ok.inj h
    cases connective <;> rfl
  | cons part rest ih =>
    rw [List.mapM_cons] at h
    obtain ⟨said, hp, h⟩ := Attempt.bind_ok.mp h
    obtain ⟨others, hr, h⟩ := Attempt.bind_ok.mp h
    obtain rfl : said :: others = verdicts := Except.ok.inj h
    rw [runChain, hp, ih hr]
    cases connective <;> cases said <;> rfl

/-- Chains of the same parts in any two orders. If both have a verdict, it is
the same. If the first has one and the second fails, then it fails with the
failure of a part that the first skipped. If no part fails, the second has the
verdict of the connective on those of the parts; a chain without parts is
true under both. -/
theorem run_chain_perm (hp : first.Perm second) (connective : Connective) (record : Record)
    (known : Option (List Bool)) :
    (∀ verdict other, (chain connective first).run record known = .ok verdict →
      (chain connective second).run record known = .ok other → verdict = other) ∧
    (∀ verdict failure, (chain connective first).run record known = .ok verdict →
      (chain connective second).run record known = .error failure →
      ∃ before settler skipped, first = before ++ settler :: skipped ∧
        (∀ part ∈ before, part.run record known = .ok !connective.settling) ∧
        settler.run record known = .ok connective.settling ∧
        ∃ part ∈ skipped, part.run record known = .error failure) ∧
    ((∀ part ∈ first, ∃ verdict, part.run record known = .ok verdict) →
      ∃ verdicts, first.mapM (fun part => part.run record known) = .ok verdicts ∧
        (chain connective second).run record known =
          .ok (first.isEmpty || connective.overall verdicts)) := by
  by_cases hn : first = []
  · subst hn
    obtain rfl : second = [] := hp.symm.eq_nil
    rw [run_chain_nil]
    refine ⟨fun _ _ hf hs => Except.ok.inj (hf.symm.trans hs), fun _ _ _ hs => ?_, fun _ => ?_⟩
    · cases hs
    · exact ⟨[], rfl, rfl⟩
  have hm : second ≠ [] := fun he => hn (he ▸ hp).eq_nil
  rw [run_chain hn, run_chain hm]
  refine ⟨fun _ _ => runChain_perm hp, fun _ failure hf hs => ?_, fun hv => ?_⟩
  · obtain ⟨skipped, hk, hs⟩ := runChain_perm_error hp hf hs
    obtain ⟨before, settler, he, hb, ht⟩ := hk.settled
    exact ⟨before, settler, skipped, he, hb, ht, hs⟩
  · obtain ⟨verdicts, hm⟩ := Attempt.exists_mapM hv
    have hs : ∃ verdict, runChain record known connective.settling second = .ok verdict :=
      exists_runChain fun part ho => hv part (hp.mem_iff.mpr ho)
    obtain ⟨verdict, hs⟩ := hs
    refine ⟨verdicts, hm, ?_⟩
    rw [hs, List.isEmpty_eq_false_iff.mpr hn, Bool.false_or,
      runChain_perm hp (runChain_overall hm) hs]

/-- The first order stops at the literal, and the second fails before it. -/
theorem run_swapped :
    [literal true, .leaf (.invalid "x")].Perm [.leaf (.invalid "x"), literal true] ∧
      (chain .or [literal true, .leaf (.invalid "x")]).apply [] = .ok true ∧
      (chain .or [.leaf (.invalid "x"), literal true]).apply [] =
        .error (.invalidCondition "x") ∧
      ∃ before settler skipped,
        [literal true, .leaf (.invalid "x")] = before ++ settler :: skipped ∧
        ∃ part ∈ skipped, part.apply [] = .error (.invalidCondition "x") := by
  have hp : [literal true, .leaf (.invalid "x")].Perm [.leaf (.invalid "x"), literal true] :=
    .swap ..
  obtain ⟨before, settler, skipped, he, -, -, hs⟩ :=
    (run_chain_perm hp .or [] none).2.1 true (.invalidCondition "x") rfl rfl
  exact ⟨hp, rfl, rfl, before, settler, skipped, he, hs⟩

/-- A chain of no parts is true, also where no part gives that verdict. -/
theorem apply_empty_alternatives :
    ¬ ∀ (connective : Connective) (parts : List Filter) (record : Record) (verdicts : List Bool),
      parts.mapM (fun part => part.apply record) = .ok verdicts →
        (chain connective parts).apply record = .ok (connective.overall verdicts) := by
  intro h
  cases h .or [] [] [] rfl

end Filter

end RecordQuery
