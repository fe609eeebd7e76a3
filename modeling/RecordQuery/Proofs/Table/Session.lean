import RecordQuery.Proofs.Table.Selection

/-!
# Sessions

A session asks a table for one step after another. All that a step can do is
to leave the table as it is, to make a query current, or to put other records
in place and apply the current query again; a step that fails has done the
first part of this.
-/

namespace RecordQuery.Table

inductive Step where
  | apply (query : Option String)
  | filter (query : Option String)
  | add (given : Value)
  | remove (key : Value)
  | append (given : List Value)
  | replace (given : Value)
  | get (key : Value)
  | size

inductive Answer where
  | selected (records : List Record)
  | keys (found : List Value)
  | stored (accepted : Bool)
  | removed (record : Option Record)
  | appended (report : BatchReport)
  | replaced (report : ReplaceReport)
  | found (record : Option Record)
  | count (n : Nat)

def perform (table : Table) : Step → Table × Except Failure Answer
  | .apply query => (table.apply query).map id (Except.map .selected)
  | .filter query => (table, (table.filter query).map .keys)
  | .add given => (table.add given).map id (Except.map .stored)
  | .remove key => (table.remove key).map id (Except.map .removed)
  | .append given => (table.append given).map id (Except.map .appended)
  | .replace given => (table.replace given).map id (Except.map .replaced)
  | .get key => (table, .ok (.found (table.get? key)))
  | .size => (table, .ok (.count table.records.length))

def trace (table : Table) : List Step → List (Table × Except Failure Answer)
  | [] => []
  | step :: rest => table.perform step :: trace (table.perform step).1 rest

def after (table : Table) (steps : List Step) : Table :=
  steps.foldl (fun table step => (table.perform step).1) table

/-- What holds at first and is kept by every step with an acceptable outcome
holds all along. -/
theorem forall_trace {P : Table → Prop} {Q : Except Failure Answer → Prop} {table : Table}
    (hs : P table) (hk : ∀ table step, P table → Q (table.perform step).2 → P (table.perform step).1)
    (steps : List Step) (hq : ∀ entry ∈ table.trace steps, Q entry.2) :
    ∀ entry ∈ table.trace steps, P entry.1 := by
  induction steps generalizing table with
  | nil =>
    intro entry he
    cases he
  | cons step rest ih =>
    obtain ⟨hf, hr⟩ := List.forall_mem_cons.mp hq
    have hn := hk table step hs hf
    exact List.forall_mem_cons.mpr ⟨hn, ih hn hr⟩

-- ---------------------------------------------------------------------------
-- Applying a query
-- ---------------------------------------------------------------------------

section
variable (table : Table)

theorem apply_cases (query : Option String) :
    (∃ selected, table.apply query =
      ({ table with query := query, filtered := selected }, .ok selected)) ∨
    ∃ failure, table.apply query = ({ table with query := query }, .error failure) := by
  cases query with
  | none => exact .inr ⟨_, rfl⟩
  | some text =>
    cases hb : Text.isBlankText text.toList with
    | true => exact .inl ⟨_, apply_blank table hb⟩
    | false =>
      cases hf : table.filter (some text) with
      | ok keys => exact .inl ⟨_, apply_answered table hb hf⟩
      | error failure =>
        rw [apply_failed table hb hf]
        split
        · exact .inl ⟨_, rfl⟩
        · exact .inr ⟨_, rfl⟩

variable {table}

theorem apply_ok {query : Option String} {selected : List Record}
    (h : (table.apply query).2 = .ok selected) :
    (table.apply query).1 = { table with query := query, filtered := selected } := by
  rcases table.apply_cases query with ⟨other, he⟩ | ⟨failure, he⟩
  · rw [he] at h ⊢
    obtain rfl := Except.ok.inj h
    rfl
  · rw [he] at h
    cases h

end

theorem keyText_congr {first second : Table} (h : first.keyField = second.keyField) :
    first.keyText = second.keyText := by
  funext record
  rw [keyText, keyText, key, key, h]

/-- What is selected depends on the settings, the key field, the records and
the engine's answers alone. -/
theorem outcome_congr {first second : Table} (hs : first.settings = second.settings)
    (hk : first.keyField = second.keyField) (hr : first.records = second.records)
    (he : first.engine.filter = second.engine.filter) (query : Option String) :
    (first.apply query).2 = (second.apply query).2 := by
  have ht := keyText_congr hk
  have hb : first.fallsBack = second.fallsBack := by rw [fallsBack, fallsBack, hs]
  have hf : first.filter = second.filter := by
    funext query
    simp only [filter, limit, hs, he]
  cases query with
  | none => rfl
  | some text =>
    cases hn : Text.isBlankText text.toList with
    | true => rw [apply_blank first hn, apply_blank second hn, hr]
    | false =>
      cases ho : second.filter (some text) with
      | ok keys =>
        rw [apply_answered first hn (hf ▸ ho), apply_answered second hn ho]
        simp only [select, hr, ht]
      | error failure =>
        rw [apply_failed first hn (hf ▸ ho), apply_failed second hn ho, hb, hr]
        split <;> rfl

theorem apply_frame (table : Table) (query : Option String) :
    ∃ filtered, (table.apply query).1 = { table with query := query, filtered := filtered } := by
  rcases table.apply_cases query with ⟨selected, he⟩ | ⟨failure, he⟩
  · exact ⟨selected, by rw [he]⟩
  · exact ⟨table.filtered, by rw [he]⟩

theorem apply_keyField (table : Table) (query : Option String) :
    (table.apply query).1.keyField = table.keyField := by
  obtain ⟨filtered, he⟩ := table.apply_frame query
  rw [he]
  rfl

-- ---------------------------------------------------------------------------
-- Storing and removing
-- ---------------------------------------------------------------------------

def reselect (table : Table) (records : List Record) : Table × Except Failure (List Record) :=
  (table.holding records).apply table.query

theorem sync_eq {α : Type} (table : Table) (records : List Record) (result : α) :
    { table with records := records }.sync result =
      (table.reselect records).map id (Except.map fun _ => result) := rfl

section
variable {table : Table} {given key : Value} {record : Record}

theorem put_eq (table : Table) (record : Record) :
    table.put record = { table with records := (table.put record).records } := by
  unfold put
  split <;> rfl

theorem add_accepted (h : table.acceptable? given = some record) :
    table.add given =
      (table.reselect (table.put record).records).map id (Except.map fun _ => true) := by
  unfold add
  rw [h]
  dsimp only
  rw [put_eq, sync_eq]

theorem add_refused (h : table.acceptable? given = none) :
    table.add given = (table, .ok false) := by
  unfold add
  rw [h]

theorem remove_absent (h : key = .null ∨ table.indexOf? key = none) :
    table.remove key = (table, .ok none) := by
  unfold remove
  rcases h with rfl | h
  · rfl
  · rw [h]
    cases key <;> rfl

theorem remove_present (hn : key ≠ .null) (h : table.indexOf? key = some index) :
    table.remove key = (table.reselect (table.records.eraseIdx index)).map id
      (Except.map fun _ => table.records[index]?) := by
  unfold remove
  rw [h]
  cases key with
  | null => exact absurd rfl hn
  | _ => rfl

end

-- ---------------------------------------------------------------------------
-- Batches
-- ---------------------------------------------------------------------------

/-- What a batch has done from one state to another: only the records are
changed, and they only if some were stored. -/
structure Batched (first last : Table × BatchReport) : Prop where
  frame : last.1 = { first.1 with records := last.1.records }
  grows : first.2.added + first.2.updated ≤ last.2.added + last.2.updated
  idle : last.2.added + last.2.updated = first.2.added + first.2.updated → last.1 = first.1

theorem Batched.refl (state : Table × BatchReport) : Batched state state :=
  ⟨rfl, Nat.le_refl _, fun _ => rfl⟩

theorem Batched.keyField {first last : Table × BatchReport} (h : Batched first last) :
    last.1.keyField = first.1.keyField := by
  rw [h.frame]
  rfl

theorem Batched.trans {first second third : Table × BatchReport} (ha : Batched first second)
    (hb : Batched second third) : Batched first third where
  frame := by
    have hf := hb.frame
    rw [ha.frame] at hf
    exact hf
  grows := Nat.le_trans ha.grows hb.grows
  idle h := by
    have := ha.grows
    have := hb.grows
    rw [hb.idle (by omega), ha.idle (by omega)]

section
variable {table : Table} {given : Value} {record : Record}

theorem tally_refused (h : table.acceptable? given = none) (report : BatchReport) :
    tally (table, report) given = (table, { report with refused := report.refused ++ [given] }) := by
  simp only [tally, h]

theorem tally_accepted (h : table.acceptable? given = some record) (report : BatchReport) :
    ∃ next : BatchReport, tally (table, report) given = (table.put record, next) ∧
      next.added + next.updated = report.added + report.updated + 1 := by
  simp only [tally, h]
  cases table.indexOf? (table.key record) with
  | none => exact ⟨_, rfl, Nat.add_right_comm _ _ _⟩
  | some index => exact ⟨_, rfl, rfl⟩

end

theorem batched_tally (state : Table × BatchReport) (given : Value) :
    Batched state (tally state given) := by
  obtain ⟨table, report⟩ := state
  cases ha : table.acceptable? given with
  | none =>
    rw [tally_refused ha]
    exact ⟨rfl, Nat.le_refl _, fun _ => rfl⟩
  | some record =>
    obtain ⟨next, he, hn⟩ := tally_accepted ha report
    rw [he]
    refine ⟨put_eq table record, ?_, fun h => ?_⟩
    · exact hn ▸ Nat.le_succ _
    · exact absurd (h.symm.trans hn) (by simp)

theorem batched_foldl (given : List Value) (state : Table × BatchReport) :
    Batched state (given.foldl tally state) := by
  induction given generalizing state with
  | nil => exact .refl state
  | cons value given ih => exact (batched_tally state value).trans (ih (tally state value))

def stored (table : Table) (given : List Value) : Table :=
  (given.foldl tally (table, ⟨0, 0, []⟩)).1

section
variable {table last : Table} {given : List Value} {report : BatchReport}

theorem append_idle (h : given.foldl tally (table, ⟨0, 0, []⟩) = (last, report))
    (hn : report.added + report.updated = 0) :
    table.append given = (table, .ok report) ∧ last = table := by
  have hb := batched_foldl given (table, ⟨0, 0, []⟩)
  rw [h] at hb
  obtain rfl : last = table := hb.idle hn
  unfold append
  rw [h]
  dsimp only
  rw [if_pos (by simp [hn])]
  exact ⟨rfl, rfl⟩

theorem append_stored (h : given.foldl tally (table, ⟨0, 0, []⟩) = (last, report))
    (hn : report.added + report.updated ≠ 0) :
    table.append given =
      (table.reselect last.records).map id (Except.map fun _ => report) := by
  have hb := batched_foldl given (table, ⟨0, 0, []⟩)
  rw [h] at hb
  have hf : last = { table with records := last.records } := hb.frame
  unfold append
  rw [h]
  dsimp only
  rw [if_neg (by simpa using hn), hf, sync_eq]

end

theorem append_eq (table : Table) (given : List Value) :
    ∃ report, (table.append given = (table, .ok report) ∧ table.stored given = table) ∨
      table.append given =
        (table.reselect (table.stored given).records).map id (Except.map fun _ => report) := by
  obtain ⟨last, report, h⟩ : ∃ last report,
      given.foldl tally (table, ⟨0, 0, []⟩) = (last, report) := ⟨_, _, rfl⟩
  have hs : table.stored given = last := by rw [stored, h]
  refine ⟨report, ?_⟩
  rw [hs]
  by_cases hn : report.added + report.updated = 0
  · exact .inl (append_idle h hn)
  · exact .inr (append_stored h hn)

theorem replace_list (table : Table) (given : List Value) :
    ∃ report, table.replace (.list given) =
      (table.reselect (given.foldl table.sortOut ⟨[], [], []⟩).kept).map id
        (Except.map fun _ => report) := ⟨_, rfl⟩

-- ---------------------------------------------------------------------------
-- What a step can do
-- ---------------------------------------------------------------------------

theorem map_map {α β : Type} (pair : Table × Except Failure (List Record)) (f : List Record → α)
    (g : α → β) :
    (pair.map id (Except.map f)).map id (Except.map g) = pair.map id (Except.map (g ∘ f)) := by
  obtain ⟨table, outcome⟩ := pair
  cases outcome <;> rfl

theorem perform_cases (table : Table) (step : Step) :
    (∃ outcome, table.perform step = (table, outcome)) ∨
    (∃ query answer, table.perform step = (table.apply query).map id (Except.map answer)) ∨
    ∃ records answer, table.perform step = (table.reselect records).map id (Except.map answer) := by
  cases step with
  | apply query => exact .inr (.inl ⟨query, _, rfl⟩)
  | filter query => exact .inl ⟨_, rfl⟩
  | get key => exact .inl ⟨_, rfl⟩
  | size => exact .inl ⟨_, rfl⟩
  | add given =>
    cases ha : table.acceptable? given with
    | none => exact .inl ⟨_, by rw [perform, add_refused ha]; rfl⟩
    | some record => exact .inr (.inr ⟨_, _, by rw [perform, add_accepted ha, map_map]⟩)
  | remove key =>
    cases hi : table.indexOf? key with
    | none => exact .inl ⟨_, by rw [perform, remove_absent (.inr hi)]; rfl⟩
    | some index =>
      by_cases hn : key = .null
      · exact .inl ⟨_, by rw [perform, remove_absent (.inl hn)]; rfl⟩
      · exact .inr (.inr ⟨_, _, by rw [perform, remove_present hn hi, map_map]⟩)
  | append given =>
    obtain ⟨report, ⟨he, -⟩ | he⟩ := table.append_eq given
    · exact .inl ⟨_, by rw [perform, he]; rfl⟩
    · exact .inr (.inr ⟨_, _, by rw [perform, he, map_map]⟩)
  | replace given =>
    cases given with
    | list candidates =>
      obtain ⟨report, he⟩ := table.replace_list candidates
      exact .inr (.inr ⟨_, _, by rw [perform, he, map_map]⟩)
    | _ => exact .inl ⟨_, rfl⟩

end RecordQuery.Table
