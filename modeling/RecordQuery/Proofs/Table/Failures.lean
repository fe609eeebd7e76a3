import RecordQuery.Proofs.Host

/-!
# Steps that fail

A step may fail before any query is asked, as it looks up or prints a key. It
fails in the same way whatever the query is, and of a batch the candidates
before the failure are stored. Or the step fails at the query. Then the query
is current if it was applied, and a change of the records is the change that
the same step makes where no query is in its way. There is no step back, and
nothing is selected.
-/

namespace RecordQuery

def Table.Step.isChange : Table.Step → Bool
  | .add _ | .remove _ | .append _ | .replace _ => true
  | .apply _ | .filter _ | .get _ | .size => false

namespace Host

open Attempt (map_error)
open Table (Step)

variable (host : Host)

-- ---------------------------------------------------------------------------
-- Changes under any query
-- ---------------------------------------------------------------------------

/-- A table that was left alone, or given other records. -/
inductive Kept (table : Table) : Table → Prop
  | same : Kept table table
  | holding (records : List Record) : Kept table (table.holding records)

theorem Kept.trans {first second third : Table} (ha : Kept first second) (hb : Kept second third) :
    Kept first third := by
  cases hb with
  | same => exact ha
  | holding records => cases ha <;> exact .holding records

section
variable (table : Table) (query : Option String)

theorem placeOf?_asking (text : String) (records : List Record) :
    host.placeOf? (table.asking query) text records = host.placeOf? table text records := by
  induction records with
  | nil => rfl
  | cons record rest ih =>
    rw [placeOf?, placeOf?, ih]
    rfl

theorem indexOf?_asking (key : Value) :
    host.indexOf? (table.asking query) key = host.indexOf? table key := by
  unfold indexOf?
  simp only [placeOf?_asking]
  rfl

theorem acceptable?_asking (given : Value) :
    acceptable? (table.asking query) given = acceptable? table given := by
  cases given <;> rfl

theorem put_asking (record : Record) :
    host.put (table.asking query) record = host.put table record := by
  unfold put
  simp only [indexOf?_asking]
  rfl

theorem tally_asking (report : BatchReport) (given : Value) :
    host.tally (table.asking query, report) given =
      (host.tally (table, report) given).map (Prod.map (·.asking query) id) := by
  have hr : host.refuse (table.asking query) given = host.refuse table given := rfl
  simp only [tally, acceptable?_asking, put_asking, hr]
  cases acceptable? table given with
  | error failure => rfl
  | ok accepted =>
    cases accepted with
    | none => cases host.refuse table given <;> simp [bind, Except.bind, Except.map]
    | some record =>
      cases hp : host.put table record with
      | error failure => simp [bind, Except.bind, hp, Except.map]
      | ok stored =>
        simp only [bind, Except.bind, hp, Except.map]
        rfl

theorem tallyAll_asking (given : List Value) (state : Table × BatchReport) :
    host.tallyAll (state.map (·.asking query) id) given =
      (host.tallyAll state given).map (·.asking query) id := by
  induction given generalizing state with
  | nil => rfl
  | cons value given ih =>
    obtain ⟨table, report⟩ := state
    have ht : host.tally (Prod.map (·.asking query) id (table, report)) value =
      (host.tally (table, report) value).map (Prod.map (·.asking query) id) :=
      host.tally_asking table query report value
    rw [tallyAll, tallyAll, ht]
    cases host.tally (table, report) value with
    | error failure => rfl
    | ok next => exact ih next

theorem sortOut_asking (state : Table.Sorted) (given : Value) :
    host.sortOut (table.asking query) state given = host.sortOut table state given := by
  simp only [sortOut, acceptable?_asking]
  rfl

end

section
variable {state : Table × BatchReport} {table last : Table} {given : List Value}

theorem kept_tally {next : Table × BatchReport} {value : Value}
    (h : host.tally state value = .ok next) : Kept state.1 next.1 := by
  obtain ⟨accepted, -, h⟩ := Attempt.bind_ok.mp h
  cases accepted with
  | none =>
    obtain ⟨-, h⟩ := Attempt.then_ok.mp h
    cases h
    exact .same
  | some record =>
    obtain ⟨stored, -, h⟩ := Attempt.bind_ok.mp h
    cases h
    exact .holding stored.1

theorem kept_tallyAll (given : List Value) (state : Table × BatchReport) :
    Kept state.1 (host.tallyAll state given).1 := by
  induction given generalizing state with
  | nil => exact .same
  | cons value given ih =>
    rw [tallyAll]
    cases hn : host.tally state value with
    | error failure => exact .same
    | ok next => exact (host.kept_tally hn).trans (ih next)

/-- A batch that fails on a candidate has stored the ones before it. -/
theorem tallyAll_error {failure : Failure} (h : host.tallyAll state given = (last, .error failure)) :
    ∃ before candidate after report, given = before ++ candidate :: after ∧
      host.tallyAll state before = (last, .ok report) ∧
      host.tally (last, report) candidate = .error failure := by
  induction given generalizing state with
  | nil => cases h
  | cons value given ih =>
    rw [tallyAll] at h
    cases hn : host.tally state value with
    | error cause =>
      rw [hn] at h
      cases h
      exact ⟨[], value, given, state.2, rfl, rfl, hn⟩
    | ok next =>
      rw [hn] at h
      obtain ⟨before, candidate, after, report, rfl, hb, hc⟩ := ih h
      exact ⟨value :: before, candidate, after, report, rfl, by rw [tallyAll, hn]; exact hb, hc⟩

end

section
variable (table : Table)

/-- What a step does before the query is applied does not depend on the query:
either it is all, or the same records are put in place whatever is asked. -/
def ChangesAnyway (step : Step) : Prop :=
  (∃ last outcome, Kept table last ∧
    ∀ query, host.perform (table.asking query) step = (last.asking query, outcome)) ∨
  ∃ records answer, ∀ query, host.perform (table.asking query) step =
    host.reselect (table.asking query) records answer

theorem changesAnyway_add (given : Value) : host.ChangesAnyway table (.add given) := by
  have hq (query : Option String) :
      host.arrival (table.asking query) given = host.arrival table given := by
    simp only [arrival, acceptable?_asking, put_asking]
    rfl
  cases ha : host.arrival table given with
  | error failure =>
    refine .inl ⟨table, .error failure, .same, fun query => ?_⟩
    rw [perform, add, hq, ha]
    rfl
  | ok records =>
    cases records with
    | none =>
      refine .inl ⟨table, .ok (.stored false), .same, fun query => ?_⟩
      rw [perform, add, hq, ha]
      rfl
    | some records =>
      refine .inr ⟨records, .stored true, fun query => ?_⟩
      rw [perform, add, hq, ha]
      exact host.map_reselect _ _ _ _

theorem changesAnyway_remove (key : Value) : host.ChangesAnyway table (.remove key) := by
  have hq (query : Option String) :
      host.departure (table.asking query) key = host.departure table key := by
    simp only [departure, indexOf?_asking]
    rfl
  cases hd : host.departure table key with
  | error failure =>
    refine .inl ⟨table, .error failure, .same, fun query => ?_⟩
    rw [perform, remove, hq, hd]
    rfl
  | ok index =>
    cases index with
    | none =>
      refine .inl ⟨table, .ok (.removed none), .same, fun query => ?_⟩
      rw [perform, remove, hq, hd]
      rfl
    | some index =>
      refine .inr ⟨table.records.eraseIdx index, .removed table.records[index]?, fun query => ?_⟩
      rw [perform, remove, hq, hd]
      exact host.map_reselect _ _ _ _

theorem changesAnyway_append (given : List Value) : host.ChangesAnyway table (.append given) := by
  obtain ⟨last, outcome, ht⟩ : ∃ last outcome,
    host.tallyAll (table, ⟨0, 0, []⟩) given = (last, outcome) := ⟨_, _, rfl⟩
  have hk : Kept table last := by
    have hk := host.kept_tallyAll given (table, ⟨0, 0, []⟩)
    rwa [ht] at hk
  have hq (query : Option String) :
      host.tallyAll (table.asking query, ⟨0, 0, []⟩) given = (last.asking query, outcome) := by
    have ha := host.tallyAll_asking query given (table, ⟨0, 0, []⟩)
    rw [ht] at ha
    exact ha
  cases outcome with
  | error failure =>
    refine .inl ⟨last, .error failure, hk, fun query => ?_⟩
    rw [perform, append, hq]
    rfl
  | ok report =>
    by_cases hn : report.added + report.updated = 0
    · refine .inl ⟨last, .ok (.appended report), hk, fun query => ?_⟩
      rw [perform, append, hq]
      dsimp only
      rw [if_pos (beq_iff_eq.mpr hn)]
      rfl
    · refine .inr ⟨last.records, .appended report, fun query => ?_⟩
      have hs : host.reselect (last.asking query) (last.asking query).records report =
          host.reselect (table.asking query) last.records report := by
        cases hk <;> rfl
      rw [perform, append, hq]
      dsimp only
      rw [if_neg (fun h => hn (beq_iff_eq.mp h)), hs]
      exact host.map_reselect _ _ _ _

theorem changesAnyway_replace (given : Value) : host.ChangesAnyway table (.replace given) := by
  cases given with
  | list candidates =>
    have hq (query : Option String) : host.sortOut (table.asking query) = host.sortOut table := by
      funext state given
      exact host.sortOut_asking table query state given
    cases hs : candidates.foldlM (host.sortOut table) ⟨[], [], []⟩ with
    | error failure =>
      refine .inl ⟨table, .error failure, .same, fun query => ?_⟩
      rw [perform, replace, hq, hs]
      rfl
    | ok sorted =>
      refine .inr ⟨sorted.kept,
        .replaced ⟨true, sorted.kept.length, sorted.refused, sorted.duplicates⟩, fun query => ?_⟩
      rw [perform, replace, hq, hs]
      exact host.map_reselect _ _ _ _
  | _ => exact .inl ⟨table, _, .same, fun _ => rfl⟩

theorem perform_change {step : Step} (h : step.isChange = true) : host.ChangesAnyway table step := by
  cases step with
  | add given => exact host.changesAnyway_add table given
  | remove key => exact host.changesAnyway_remove table key
  | append given => exact host.changesAnyway_append table given
  | replace given => exact host.changesAnyway_replace table given
  | apply _ => cases h
  | filter _ => cases h
  | get _ => cases h
  | size => cases h

end

section
variable {host} {table : Table} {step : Step} (h : Shared table)
include h

theorem Shared.change (hc : step.isChange = true) : Shared (host.perform table step).1 := by
  rcases host.perform_change table hc with ⟨last, outcome, hk, he⟩ | ⟨records, answer, he⟩
  · have he : host.perform table step = (last.asking table.query, outcome) := he table.query
    rw [he]
    cases hk with
    | same => exact ⟨h.records, h.keyField⟩
    | holding records => exact ⟨rfl, h.keyField⟩
  · have he : host.perform table step = host.reselect table records answer := he table.query
    rw [he]
    exact (h.holding records).apply table.query

theorem Shared.perform (step : Step) : Shared (host.perform table step).1 := by
  cases step with
  | apply query => exact h.apply query
  | filter query => exact h
  | get key => exact h
  | size => exact h
  | _ => exact h.change rfl

end

-- ---------------------------------------------------------------------------
-- Failures
-- ---------------------------------------------------------------------------

section
variable {table : Table} {step : Step} {failure : Failure}

/-- A change that fails does so under a blank query, or it has only put
records in place, which it also does under a blank query. -/
theorem change_failed (hc : step.isChange = true)
    (h : (host.perform table step).2 = .error failure) :
    ∃ last, Kept table last ∧ (host.perform table step).1 = last ∧
      (host.perform (table.asking (some "")) step = (last.asking (some ""), .error failure) ∨
        ∃ answer, host.perform (table.asking (some "")) step =
          ({ last with query := some "", filtered := last.records }, .ok answer)) := by
  rcases host.perform_change table hc with ⟨last, outcome, hk, he⟩ | ⟨records, answer, he⟩
  · have ht : host.perform table step = (last.asking table.query, outcome) := he table.query
    have hl : last.asking table.query = last := by cases hk <;> rfl
    rw [ht] at h ⊢
    obtain rfl : outcome = .error failure := h
    exact ⟨last, hk, hl, .inl (he _)⟩
  · have ht : host.perform table step = host.reselect table records answer := he table.query
    rw [ht] at h ⊢
    refine ⟨table.holding records, .holding records, host.reselect_error table records answer h,
      .inr ⟨answer, ?_⟩⟩
    rw [he, reselect_blank]
    rfl

theorem perform_apply_failed {query : Option String}
    (h : (host.perform table (.apply query)).2 = .error failure) :
    (host.perform table (.apply query)).1 = table.asking query :=
  host.apply_error (map_error.mp h)

/-- A failing step leaves the selection as it was. If it applies a query, the
query is current and the records are as before. If it changes the records, the
query is as before and the records, also those of the engine, are what the same
step makes of them under a blank query, where it fails in the same way or not
at all. -/
theorem perform_failed (h : (host.perform table step).2 = .error failure) :
    (host.perform table step).1.filtered = table.filtered ∧
    (∀ query, step = .apply query → (host.perform table step).1.query = query ∧
      (host.perform table step).1.records = table.records) ∧
    (step.isChange = true → (host.perform table step).1.query = table.query ∧
      (host.perform table step).1.records =
        (host.perform (table.asking (some "")) step).1.records ∧
      ((host.perform (table.asking (some "")) step).2 = .error failure ∨
        ∃ answer, (host.perform (table.asking (some "")) step).2 = .ok answer) ∧
      (table.engine.records = table.records →
        (host.perform table step).1.engine.records = (host.perform table step).1.records)) := by
  refine ⟨?_, fun query hq => ?_, fun hc => ?_⟩
  · by_cases hc : step.isChange = true
    · obtain ⟨last, hk, he, -⟩ := host.change_failed hc h
      rw [he]
      cases hk <;> rfl
    · cases step with
      | apply query =>
        rw [host.perform_apply_failed h]
        rfl
      | filter query => rfl
      | get key => rfl
      | size => rfl
      | _ => exact absurd rfl hc
  · subst hq
    rw [host.perform_apply_failed h]
    exact ⟨rfl, rfl⟩
  · obtain ⟨last, hk, he, hb⟩ := host.change_failed hc h
    have hs : table.engine.records = table.records → last.engine.records = last.records := by
      cases hk with
      | same => exact id
      | holding records => exact fun _ => rfl
    have hq : last.query = table.query := by cases hk <;> rfl
    rw [he]
    rcases hb with hb | ⟨answer, hb⟩
    · rw [hb]
      exact ⟨hq, rfl, .inl rfl, hs⟩
    · rw [hb]
      exact ⟨hq, rfl, .inr ⟨answer, rfl⟩, hs⟩

end

end Host

-- ---------------------------------------------------------------------------
-- A table that refuses
-- ---------------------------------------------------------------------------

namespace Table

/-- A table that takes no query but a blank one and makes up for nothing. -/
def strict : Table :=
  new twins .null (.new (.object [("max_query_length", .int 0), ("fallback_on_error", .bool false)])
    .null .null (.bool false))

def refusing : Table := strict.asking (some "x")

def newcomer : Value := .object [("id", .text "b"), ("name", .text "z")]

end Table

namespace Host

open Table (Step refusing strict newcomer twins)

theorem strict_apply (table : Table) (hs : table.settings = strict.settings) :
    Limits.standard.host.apply table (some "x") =
      (table.asking (some "x"), .error (.rejected (.tooLong (.int 0)) (some "x"))) := by
  have hl : table.limit = .int 0 := by rw [Table.limit, hs]; rfl
  have hb : table.fallsBack = false := by rw [Table.fallsBack, hs]; rfl
  have ho : Query.overruns "x".length table.limit = .ok true := by
    rw [hl, Query.overruns_int]
    rfl
  have hp : ∃ text, Limits.standard.host.print table.limit = .ok text := by
    rw [hl]
    exact ⟨_, rfl⟩
  rw [apply_failed _ rfl (found_error _ (filter_long _ ho hp)), hb, hl, Bool.and_false]
  rfl

theorem strict_fails :
    Limits.standard.host.perform strict (.apply (some "x")) =
      (refusing, .error (.rejected (.tooLong (.int 0)) (some "x"))) := by
  rw [perform, strict_apply strict rfl]
  rfl

theorem refusing_fails :
    Limits.standard.host.perform refusing (.add newcomer) =
      (refusing.holding (twins ++ [newcomer.fields]),
        .error (.rejected (.tooLong (.int 0)) (some "x"))) := by
  have ha : Limits.standard.host.arrival refusing newcomer =
      .ok (some (twins ++ [newcomer.fields])) := rfl
  have hs : Limits.standard.host.reselect refusing (twins ++ [newcomer.fields]) true =
      (refusing.holding (twins ++ [newcomer.fields]),
        .error (.rejected (.tooLong (.int 0)) (some "x"))) := by
    have hq : refusing.query = some "x" := rfl
    unfold reselect
    rw [hq, strict_apply (refusing.holding _) rfl]
    rfl
  rw [perform, add, ha]
  dsimp only
  rw [hs]
  rfl

/-- Failing steps are not undone: neither the query applied nor the record
added is taken back. -/
theorem failures_stand :
    (Limits.standard.host.perform strict (.apply (some "x")) =
        (refusing, .error (.rejected (.tooLong (.int 0)) (some "x"))) ∧
      strict.query = some "" ∧ refusing.query = some "x") ∧
    (Limits.standard.host.perform refusing (.add newcomer) =
        (refusing.holding (twins ++ [newcomer.fields]),
          .error (.rejected (.tooLong (.int 0)) (some "x"))) ∧
      refusing.records = twins) ∧
    ¬ ∀ (table : Table) (step : Step) (failure : Failure),
      (step.isChange = true ∨ ∃ query, step = .apply query) →
      (Limits.standard.host.perform table step).2 = .error failure →
      (Limits.standard.host.perform table step).1.records = table.records ∧
        (Limits.standard.host.perform table step).1.filtered = table.filtered ∧
        (Limits.standard.host.perform table step).1.query = table.query := by
  refine ⟨⟨strict_fails, rfl, rfl⟩, ⟨refusing_fails, rfl⟩, fun h => ?_⟩
  have hq := (h strict (.apply (some "x")) _ (.inr ⟨_, rfl⟩) (by rw [strict_fails])).2.2
  rw [strict_fails] at hq
  exact absurd hq (by decide)

theorem refusing_keeps_newcomer :
    (Limits.standard.host.perform refusing (.add newcomer)).2 =
      .error (.rejected (.tooLong (.int 0)) (some "x")) ∧
    (Limits.standard.host.perform refusing (.add newcomer)).1.filtered = refusing.filtered ∧
    (Limits.standard.host.perform refusing (.add newcomer)).1.query = refusing.query ∧
    (Limits.standard.host.perform refusing (.add newcomer)).1.records =
      (Limits.standard.host.perform (refusing.asking (some "")) (.add newcomer)).1.records := by
  have ha : (Limits.standard.host.perform refusing (.add newcomer)).2 =
      .error (.rejected (.tooLong (.int 0)) (some "x")) := by rw [refusing_fails]
  obtain ⟨hf, -, hc⟩ := Limits.standard.host.perform_failed ha
  obtain ⟨hq, hr, -, -⟩ := hc rfl
  exact ⟨ha, hf, hq, hr⟩

end Host

end RecordQuery
