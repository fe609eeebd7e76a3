import RecordQuery.Proofs.Table.Session

/-!
# Selections in step

As long as no step fails, the selection of a table is what its query selects
from its records: a new table of these records, set up alike, would select
the same. So no step leaves a stale selection behind, and the engine never
answers for other records.
-/

namespace RecordQuery

theorem Engine.filter_congr {first second : Engine} (hr : first.records = second.records)
    (hk : first.keyField = second.keyField) : first.filter = second.filter := by
  obtain ⟨records, keyField, counts⟩ := first
  obtain rfl : records = second.records := hr
  obtain rfl : keyField = second.keyField := hk
  rfl

namespace Table

/-- How a table was set up, which no step changes. -/
structure Configured (keyField : Value) (settings : Settings) (table : Table) : Prop where
  sameSettings : table.settings = settings
  sameKey : table.keyField = (new [] keyField settings).keyField
  engineKey : table.engine.keyField = table.keyField

/-- The engine holds the records, and what is selected is what a new table
would select from them. -/
structure InStep (keyField : Value) (settings : Settings) (table : Table) : Prop where
  engine : table.engine.records = table.records
  selection : ((new table.records keyField settings).apply table.query).2 = .ok table.filtered

section
variable {keyField : Value} {settings : Settings} {table : Table}

theorem configured_new (records : List Record) :
    Configured keyField settings (new records keyField settings) := ⟨rfl, rfl, rfl⟩

theorem inStep_new (records : List Record) :
    InStep keyField settings (new records keyField settings) := by
  refine ⟨rfl, ?_⟩
  have hb : Text.isBlankText "".toList = true := rfl
  show ((new records keyField settings).apply (some "")).2 = .ok records
  rw [apply_blank (new records keyField settings) hb]
  rfl

theorem Configured.apply (h : Configured keyField settings table) (query : Option String) :
    Configured keyField settings (table.apply query).1 := by
  obtain ⟨filtered, he⟩ := table.apply_frame query
  rw [he]
  exact ⟨h.sameSettings, h.sameKey, h.engineKey⟩

theorem Configured.holding (h : Configured keyField settings table) (records : List Record) :
    Configured keyField settings (table.holding records) :=
  ⟨h.sameSettings, h.sameKey, h.engineKey⟩

theorem Configured.perform (h : Configured keyField settings table) (step : Step) :
    Configured keyField settings (table.perform step).1 := by
  rcases table.perform_cases step with ⟨outcome, he⟩ | ⟨query, answer, he⟩ | ⟨records, answer, he⟩
  · rw [he]
    exact h
  · rw [he]
    exact h.apply query
  · rw [he]
    exact (h.holding records).apply table.query

theorem Configured.inStep_apply (h : Configured keyField settings table)
    (he : table.engine.records = table.records) {query : Option String} {selected : List Record}
    (ho : (table.apply query).2 = .ok selected) :
    InStep keyField settings (table.apply query).1 := by
  have hk : (new table.records keyField settings).keyField = table.keyField := h.sameKey.symm
  have hf : (new table.records keyField settings).engine.filter = table.engine.filter :=
    Engine.filter_congr he.symm (hk.trans h.engineKey.symm)
  have hn : ((new table.records keyField settings).apply query).2 = (table.apply query).2 :=
    outcome_congr h.sameSettings.symm hk rfl hf query
  rw [apply_ok ho]
  exact ⟨he, hn.trans ho⟩

theorem Configured.inStep_perform (h : Configured keyField settings table)
    (hs : InStep keyField settings table) {step : Step} {given : Answer}
    (ho : (table.perform step).2 = .ok given) : InStep keyField settings (table.perform step).1 := by
  rcases table.perform_cases step with ⟨outcome, he⟩ | ⟨query, answer, he⟩ | ⟨records, answer, he⟩
  · rw [he]
    exact hs
  · rw [he] at ho ⊢
    obtain ⟨selected, hq, -⟩ := Attempt.map_ok.mp ho
    exact h.inStep_apply hs.engine hq
  · rw [he] at ho ⊢
    obtain ⟨selected, hq, -⟩ := Attempt.map_ok.mp ho
    exact (h.holding records).inStep_apply rfl hq

/-- After every step of a session without failures the engine holds the
records of the table, a new table of these records selects what the table has
selected, and asking for keys would change nothing. -/
theorem trace_inStep (records : List Record) (keyField : Value) (settings : Settings)
    (steps : List Step)
    (h : ∀ entry ∈ (new records keyField settings).trace steps, ∃ answer, entry.2 = .ok answer) :
    ∀ entry ∈ (new records keyField settings).trace steps,
      entry.1.engine.records = entry.1.records ∧
      ((new entry.1.records keyField settings).apply entry.1.query).2 = .ok entry.1.filtered ∧
      ((new entry.1.records keyField settings).apply entry.1.query).1.filtered = entry.1.filtered ∧
      ∀ query, (entry.1.perform (.filter query)).1 = entry.1 := by
  have ht := forall_trace
    (P := fun table => Configured keyField settings table ∧ InStep keyField settings table)
    (Q := fun outcome => ∃ answer, outcome = .ok answer)
    ⟨configured_new records, inStep_new records⟩
    (fun _ step ⟨hc, hs⟩ ⟨_, ho⟩ => ⟨hc.perform step, hc.inStep_perform hs ho⟩) steps h
  intro entry hm
  obtain ⟨-, hs⟩ := ht entry hm
  exact ⟨hs.engine, hs.selection, by rw [apply_ok hs.selection], fun _ => rfl⟩

end

def session : List Step := [
  .apply (some "x"),
  .add (.object [("id", .text "b"), ("name", .text "xy")]),
  .add (.object [("name", .text "x")]),
  .remove (.text "a"),
  .append [.object [("id", .text "c"), ("name", .text "x")], .null],
  .filter (some "y"),
  .replace (.list [.object [("id", .text "d"), ("name", .text "x")]]),
  .size]

theorem session_inStep :
    (∀ entry ∈ (new twins .null .default).trace session, ∃ answer, entry.2 = .ok answer) ∧
      ∀ entry ∈ (new twins .null .default).trace session,
        ((new entry.1.records .null .default).apply entry.1.query).2 = .ok entry.1.filtered := by
  have ho : ((new twins .null .default).trace session).all (fun entry => entry.2.isOk) = true := by
    decide +kernel
  have h : ∀ entry ∈ (new twins .null .default).trace session, ∃ answer, entry.2 = .ok answer := by
    intro entry hm
    have hk := List.all_eq_true.mp ho entry hm
    cases he : entry.2 with
    | error failure =>
      rw [he] at hk
      cases hk
    | ok answer => exact ⟨answer, rfl⟩
  exact ⟨h, fun entry hm => (trace_inStep twins .null .default session h entry hm).2.1⟩

end Table

end RecordQuery
