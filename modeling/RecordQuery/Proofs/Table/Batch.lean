import RecordQuery.Proofs.Table.InStep
import RecordQuery.Proofs.Table.Keyed

/-!
# Batches and single additions

A batch leaves a table as adding its candidates one by one does, although it
applies the query once at the end, and not at all if nothing was stored. Its
report counts the additions that made the table longer and those that put a
record in the place of another, and lists what was refused.
-/

namespace RecordQuery.Table

-- ---------------------------------------------------------------------------
-- Additions
-- ---------------------------------------------------------------------------

/-- A candidate that was added, with the table before and after. -/
structure Addition where
  given : Value
  before : Table
  after : Table
  outcome : Except Failure Bool

namespace Addition

def of (table : Table) (given : Value) : Addition :=
  ⟨given, table, (table.add given).1, (table.add given).2⟩

def isRefused (addition : Addition) : Bool :=
  match addition.outcome with
  | .ok accepted => !accepted
  | .error _ => false

def isAccepted (addition : Addition) : Bool :=
  match addition.outcome with
  | .ok accepted => accepted
  | .error _ => false

def isLonger (addition : Addition) : Bool :=
  decide (addition.before.records.length < addition.after.records.length)

def isReplacing (addition : Addition) : Bool := addition.isAccepted && !addition.isLonger

end Addition

def additions (table : Table) : List Value → List Addition
  | [] => []
  | given :: rest => .of table given :: additions (table.add given).1 rest

def reported (additions : List Addition) : BatchReport :=
  ⟨additions.countP Addition.isLonger, additions.countP Addition.isReplacing,
    (additions.filter Addition.isRefused).map Addition.given⟩

section
variable {table first second : Table} {given : Value} {record : Record} {accepted : Bool}

theorem put_congr (hr : first.records = second.records) (hk : first.keyField = second.keyField)
    (record : Record) : (first.put record).records = (second.put record).records := by
  rw [put_records, put_records, hr, keyText_congr hk]

theorem indexOf?_congr (hr : first.records = second.records)
    (hk : first.keyField = second.keyField) : first.indexOf? = second.indexOf? := by
  funext key
  rw [indexOf?, indexOf?, hr, keyText_congr hk]

theorem length_put (table : Table) (record : Record) :
    (table.put record).records.length =
      table.records.length + if (table.indexOf? (table.key record)).isSome then 0 else 1 := by
  unfold put
  cases table.indexOf? (table.key record) with
  | some index => exact List.length_set
  | none => exact List.length_append

theorem of_refused (h : table.acceptable? given = none) :
    Addition.of table given = ⟨given, table, table, .ok false⟩ := by
  rw [Addition.of, add_refused h]

theorem of_accepted (h : table.acceptable? given = some record)
    (ho : (Addition.of table given).outcome = .ok accepted) :
    (Addition.of table given).outcome = .ok true ∧
    (Addition.of table given).after.records = (table.put record).records ∧
    (Addition.of table given).isLonger = (table.indexOf? (table.key record)).isNone := by
  obtain ⟨filtered, he⟩ := table.reselect_frame (table.put record).records
  have hr : (table.add given).1.records = (table.put record).records := by
    rw [add_accepted h, Prod.map_fst, he]
    rfl
  refine ⟨?_, hr, ?_⟩
  · rw [Addition.of, add_accepted h] at ho ⊢
    obtain ⟨_, hs, -⟩ := Attempt.map_ok.mp ho
    exact Attempt.map_ok.mpr ⟨_, hs, rfl⟩
  · rw [Addition.isLonger, Addition.of, hr, length_put]
    cases table.indexOf? (table.key record) <;> simp

/-- What a batch reports of a candidate is what adding it does to a table
with the same records. -/
theorem tally_of (hr : first.records = second.records) (hk : first.keyField = second.keyField)
    (ho : (Addition.of second given).outcome = .ok accepted) (report : BatchReport) :
    (tally (first, report) given).1.records = (second.add given).1.records ∧
    (tally (first, report) given).2 =
      ⟨report.added + if (Addition.of second given).isLonger then 1 else 0,
        report.updated + if (Addition.of second given).isReplacing then 1 else 0,
        report.refused ++ if (Addition.of second given).isRefused then [given] else []⟩ := by
  cases ha : second.acceptable? given with
  | none =>
    rw [tally_refused (acceptable?_congr hk ▸ ha), of_refused ha, add_refused ha]
    refine ⟨hr, ?_⟩
    simp [Addition.isLonger, Addition.isReplacing, Addition.isRefused, Addition.isAccepted]
  | some record =>
    obtain ⟨ht, hp, hl⟩ := of_accepted ha ho
    have hf : first.acceptable? given = some record := acceptable?_congr hk ▸ ha
    have hi : first.indexOf? (first.key record) = second.indexOf? (second.key record) := by
      rw [indexOf?_congr hr hk, key, key, hk]
    have hs : (first.put record).records = (second.add given).1.records :=
      (put_congr hr hk record).trans hp.symm
    simp only [tally, hf, hi, Addition.isReplacing, Addition.isRefused, Addition.isAccepted, ht, hl]
    cases second.indexOf? (second.key record) with
    | none => exact ⟨hs, by simp⟩
    | some index => exact ⟨hs, by simp⟩

theorem kinds_of (ho : (Addition.of table given).outcome = .ok accepted) :
    (if (Addition.of table given).isLonger then 1 else 0) +
      (if (Addition.of table given).isReplacing then 1 else 0) +
      (if (Addition.of table given).isRefused then 1 else 0) = 1 := by
  cases ha : table.acceptable? given with
  | none =>
    rw [of_refused ha]
    simp [Addition.isLonger, Addition.isReplacing, Addition.isRefused, Addition.isAccepted]
  | some record =>
    obtain ⟨ht, -, -⟩ := of_accepted ha ho
    rw [Addition.isReplacing, Addition.isRefused, Addition.isAccepted, ht]
    cases (Addition.of table given).isLonger <;> rfl

end

-- ---------------------------------------------------------------------------
-- Runs
-- ---------------------------------------------------------------------------

section
variable {table first second : Table} {given : List Value}

def AllAdded (table : Table) (given : List Value) : Prop :=
  ∀ addition ∈ table.additions given, ∃ accepted, addition.outcome = .ok accepted

theorem allAdded_cons {value : Value} : AllAdded table (value :: given) ↔
    (∃ accepted, (Addition.of table value).outcome = .ok accepted) ∧
      AllAdded (table.add value).1 given := List.forall_mem_cons

/-- The batch and the additions need to agree on the records and the key
field alone, since no candidate is judged by what is selected. -/
theorem foldl_tally_additions (hr : first.records = second.records)
    (hk : first.keyField = second.keyField) (h : AllAdded second given) (report : BatchReport) :
    (given.foldl tally (first, report)).1.records = (second.after (given.map .add)).records ∧
    (given.foldl tally (first, report)).2 =
      ⟨report.added + (second.additions given).countP Addition.isLonger,
        report.updated + (second.additions given).countP Addition.isReplacing,
        report.refused ++
          ((second.additions given).filter Addition.isRefused).map Addition.given⟩ := by
  induction given generalizing first second report with
  | nil => exact ⟨hr, by simp [additions]⟩
  | cons value rest ih =>
    obtain ⟨⟨accepted, ho⟩, hs⟩ := allAdded_cons.mp h
    obtain ⟨hv, ht⟩ := tally_of hr hk ho report
    have hn : (tally (first, report) value).1.keyField = (second.add value).1.keyField := by
      rw [(batched_tally (first, report) value).keyField]
      exact hk.trans (perform_keyField second (.add value)).symm
    obtain ⟨hw, he⟩ := ih hv hn hs (tally (first, report) value).2
    refine ⟨hw, ?_⟩
    rw [List.foldl_cons, he, ht]
    simp only [additions, List.countP_cons, List.filter_cons, BatchReport.mk.injEq]
    refine ⟨by omega, by omega, ?_⟩
    cases (Addition.of second value).isRefused with
    | true => exact List.append_assoc ..
    | false => exact congrArg (· ++ _) (List.append_nil _)

theorem kinds_additions (h : AllAdded table given) :
    (table.additions given).countP Addition.isLonger +
      (table.additions given).countP Addition.isReplacing +
      (table.additions given).countP Addition.isRefused = given.length := by
  induction given generalizing table with
  | nil => rfl
  | cons value rest ih =>
    obtain ⟨⟨accepted, ho⟩, hs⟩ := allAdded_cons.mp h
    have hv := kinds_of ho
    have hr := ih hs
    simp only [additions, List.countP_cons, List.length_cons]
    omega

theorem length_additions (table : Table) (given : List Value) :
    (table.additions given).length = given.length := by
  induction given generalizing table with
  | nil => rfl
  | cons value rest ih => exact congrArg Nat.succ (ih (table.add value).1)

theorem reported_length (h : AllAdded table given) :
    (reported (table.additions given)).added + (reported (table.additions given)).updated +
      (reported (table.additions given)).refused.length = given.length := by
  rw [← kinds_additions h, reported, List.length_map, ← List.countP_eq_length_filter]

theorem reported_idle_iff (h : AllAdded table given) :
    (reported (table.additions given)).added + (reported (table.additions given)).updated = 0 ↔
      ∀ addition ∈ table.additions given, addition.isRefused = true := by
  have hk := kinds_additions h
  rw [← List.countP_eq_length, length_additions, reported]
  dsimp only
  omega

theorem foldl_tally_reported (h : AllAdded table given) :
    ∃ last : Table,
      given.foldl tally (table, ⟨0, 0, []⟩) = (last, reported (table.additions given)) ∧
      last.records = (table.after (given.map .add)).records := by
  obtain ⟨hr, ht⟩ := foldl_tally_additions rfl rfl h ⟨0, 0, []⟩
  refine ⟨_, Prod.ext rfl (ht.trans ?_), hr⟩
  simp [reported]

end

-- ---------------------------------------------------------------------------
-- Selections
-- ---------------------------------------------------------------------------

/-- Set up alike, with the same query. -/
structure Alike (first second : Table) : Prop where
  settings : first.settings = second.settings
  keyField : first.keyField = second.keyField
  engineKey : first.engine.keyField = second.engine.keyField
  query : first.query = second.query

/-- Putting the records in place once more and selecting changes nothing. -/
def Settled (table : Table) : Prop :=
  table.reselect table.records = (table, .ok table.filtered)

section
variable {table first second third : Table} {given : List Value} {records selected : List Record}
  {value : Value} {record : Record} {accepted : Bool}

theorem Alike.trans (ha : Alike first second) (hb : Alike second third) : Alike first third :=
  ⟨ha.settings.trans hb.settings, ha.keyField.trans hb.keyField, ha.engineKey.trans hb.engineKey,
    ha.query.trans hb.query⟩

theorem alike_reselect (table : Table) (records : List Record) :
    Alike table (table.reselect records).1 := by
  obtain ⟨filtered, he⟩ := table.reselect_frame records
  rw [he]
  exact ⟨rfl, rfl, rfl, rfl⟩

theorem alike_add (table : Table) (value : Value) : Alike table (table.add value).1 := by
  cases ha : table.acceptable? value with
  | none =>
    rw [add_refused ha]
    exact ⟨rfl, rfl, rfl, rfl⟩
  | some record =>
    rw [add_accepted ha]
    exact table.alike_reselect _

theorem alike_after (table : Table) (given : List Value) :
    Alike table (table.after (given.map .add)) := by
  induction given generalizing table with
  | nil => exact ⟨rfl, rfl, rfl, rfl⟩
  | cons value rest ih => exact (alike_add table value).trans (ih (table.add value).1)

theorem Alike.outcome_reselect (h : Alike first second) (records : List Record) :
    (first.reselect records).2 = (second.reselect records).2 := by
  have hh : Alike (first.holding records) (second.holding records) :=
    ⟨h.settings, h.keyField, h.engineKey, h.query⟩
  rw [reselect, reselect, h.query]
  exact outcome_congr hh.settings hh.keyField rfl (Engine.filter_congr rfl hh.engineKey) _

theorem settled_reselect (h : (table.reselect records).2 = .ok selected) :
    Settled (table.reselect records).1 := by
  have he : (table.reselect records).1 =
      { table.holding records with query := table.query, filtered := selected } := apply_ok h
  have ho : ((table.reselect records).1.reselect records).2 = .ok selected :=
    ((table.alike_reselect records).outcome_reselect records).symm.trans h
  rw [he] at ho ⊢
  exact Prod.ext (apply_ok ho) ho

theorem Settled.engine (h : Settled table) : table.engine.records = table.records := by
  obtain ⟨filtered, he⟩ := table.reselect_frame table.records
  rw [Settled] at h
  rw [h] at he
  exact congrArg (fun other : Table => other.engine.records) he

theorem settled_add (ha : table.acceptable? value = some record)
    (ho : (Addition.of table value).outcome = .ok accepted) : Settled (table.add value).1 := by
  rw [Addition.of, add_accepted ha] at ho
  obtain ⟨selected, hs, -⟩ := Attempt.map_ok.mp ho
  rw [add_accepted ha]
  exact settled_reselect hs

theorem settled_additions (h : AllAdded table given) :
    ((∀ addition ∈ table.additions given, addition.isRefused = true) ∧
      table.after (given.map .add) = table) ∨
    ((∃ addition ∈ table.additions given, addition.isRefused = false) ∧
      Settled (table.after (given.map .add))) := by
  induction given generalizing table with
  | nil => exact .inl ⟨fun _ hm => (by cases hm), rfl⟩
  | cons value rest ih =>
    obtain ⟨⟨accepted, ho⟩, hs⟩ := allAdded_cons.mp h
    cases ha : table.acceptable? value with
    | none =>
      have hv : (table.add value).1 = table := by rw [add_refused ha]
      have hf : (Addition.of table value).isRefused = true := by
        rw [of_refused ha]
        rfl
      have hn : table.after ((value :: rest).map .add) = table.after (rest.map .add) :=
        congrArg (after · (rest.map .add)) hv
      rw [additions, hn, hv]
      rcases ih (hv ▸ hs) with ⟨hr, he⟩ | ⟨⟨addition, hm, hr⟩, he⟩
      · exact .inl ⟨List.forall_mem_cons.mpr ⟨hf, hr⟩, he⟩
      · exact .inr ⟨⟨addition, List.mem_cons_of_mem _ hm, hr⟩, he⟩
    | some record =>
      -- The selection made here stands until another record is stored.
      have hf : (Addition.of table value).isRefused = false := by
        rw [Addition.isRefused, (of_accepted ha ho).1]
        rfl
      refine .inr ⟨⟨_, List.mem_cons_self, hf⟩, ?_⟩
      show Settled ((table.add value).1.after (rest.map .add))
      rcases ih hs with ⟨-, he⟩ | ⟨-, he⟩
      · rw [he]
        exact settled_add ha ho
      · exact he

/-- Stores a list at once as adding its elements one after another does: if
no addition fails, the batch is stored too, and leaves the same records, the
same selection and the same query. It reports as added the elements that made
the table longer, as updated the others that were accepted, and lists those
that were refused, so that every element is reported once. -/
theorem append_additions (table : Table) (given : List Value)
    (h : ∀ addition ∈ table.additions given, ∃ accepted, addition.outcome = .ok accepted) :
    ∃ report, (table.append given).2 = .ok report ∧
      (table.append given).1.records = (table.after (given.map .add)).records ∧
      (table.append given).1.filtered = (table.after (given.map .add)).filtered ∧
      (table.append given).1.query = (table.after (given.map .add)).query ∧
      (table.append given).1.engine.records = (table.after (given.map .add)).engine.records ∧
      report.added = (table.additions given).countP Addition.isLonger ∧
      report.updated = (table.additions given).countP Addition.isReplacing ∧
      report.refused = ((table.additions given).filter Addition.isRefused).map Addition.given ∧
      report.added + report.updated + report.refused.length = given.length := by
  refine ⟨reported (table.additions given), ?_⟩
  obtain ⟨last, hl, hr⟩ := foldl_tally_reported h
  rcases settled_additions h with ⟨ha, he⟩ | ⟨⟨addition, hm, hf⟩, he⟩
  · obtain ⟨hi, -⟩ := append_idle hl ((reported_idle_iff h).mpr ha)
    rw [hi, he]
    exact ⟨rfl, rfl, rfl, rfl, rfl, rfl, rfl, rfl, reported_length h⟩
  · have hn := mt (reported_idle_iff h).mp fun ha => by simp [ha addition hm] at hf
    -- The run ends as if its last selection were made from the table it began with.
    have hq := (alike_after table given).query
    have ho : (table.reselect last.records).2 =
        .ok (table.after (given.map .add)).filtered := by
      rw [hr, (alike_after table given).outcome_reselect, he]
    have hs : (table.reselect last.records).1 = { table.holding last.records with
        query := table.query, filtered := (table.after (given.map .add)).filtered } := apply_ok ho
    rw [append_stored hl hn, Prod.map_fst, Prod.map_snd, ho, hs]
    exact ⟨rfl, hr, rfl, hq, hr.trans he.engine.symm, rfl, rfl, rfl, reported_length h⟩

end

def searched : Table :=
  ((new [[("id", .int 1), ("name", .text "x")]] .null .default).apply (some "x")).1

/-- The first key has the text of the one in the table, the third comes twice
and two elements have none. -/
def arrivals : List Value := [
  .object [("id", .text "1"), ("name", .text "y")],
  .null,
  .object [("id", .text "b"), ("name", .text "x")],
  .object [("name", .text "x")],
  .object [("id", .text "b"), ("name", .text "xx")]]

theorem append_arrivals :
    ∃ report, (searched.append arrivals).2 = .ok report ∧
      (searched.append arrivals).1.filtered = (searched.after (arrivals.map .add)).filtered ∧
      report.added = 1 ∧ report.updated = 2 ∧ report.refused.length = 2 := by
  have ho : (searched.additions arrivals).all (fun addition => addition.outcome.isOk) = true := by
    decide +kernel
  have h : ∀ addition ∈ searched.additions arrivals, ∃ accepted, addition.outcome = .ok accepted :=
    fun addition hm => Attempt.isOk_iff.mp (List.all_eq_true.mp ho addition hm)
  obtain ⟨report, hr, -, hf, -, -, ha, hu, -, hn⟩ := append_additions searched arrivals h
  have hl : (searched.additions arrivals).countP Addition.isLonger = 1 := by decide +kernel
  have hp : (searched.additions arrivals).countP Addition.isReplacing = 2 := by decide +kernel
  have hg : arrivals.length = 5 := rfl
  exact ⟨report, hr, hf, by omega, by omega, by omega⟩

end RecordQuery.Table
