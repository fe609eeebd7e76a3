import RecordQuery.Proofs.Limits
import RecordQuery.Proofs.Record
import RecordQuery.Proofs.Table.Batch
import RecordQuery.Proofs.Table.Failures

/-!
# Tables within limits

A step does on a host what it does without one, or it fails at a limit. So a
session is the same up to the first such failure. It does not come to one if
the table meets no limit, its key field can be looked up and its limit on
queries is a number, and the steps bring in nothing that meets a limit.
-/

namespace RecordQuery

open Attempt (map_error)

theorem matching_pure (passes : Record → Bool) (records : List Record) :
    matching (fun record => .ok (passes record)) records = .ok (records.filter passes) := by
  induction records with
  | nil => rfl
  | cons record rest ih =>
    rw [matching, ih, List.filter_cons]
    rfl

/-- The table with other records, of which its engine does not know yet. -/
def Table.ahead (table : Table) (records : List Record) : Table := { table with records := records }

/-- What a step without limits leads to, or a failure at a limit. What such a
failure leaves behind is not compared. -/
def NearStep {α : Type} (met : Prop) (step ideal : Table × Except Failure α) : Prop :=
  step = ideal ∨ met ∧ ∃ failure, step.2 = .error failure ∧ failure.isLimit = true

namespace NearStep

variable {α β : Type} {met : Prop} {step ideal : Table × Except Failure α}

theorem refl (step : Table × Except Failure α) : NearStep met step step := .inl rfl

theorem eq (h : NearStep False step ideal) : step = ideal := h.resolve_right fun hm => hm.1

theorem of_near {outcome other : Except Failure α} (h : Near met outcome other) (table : Table) :
    NearStep met (table, outcome) (table, other) :=
  h.imp (fun he => by rw [he]) id

theorem map (h : NearStep met step ideal) (f : α → β) :
    NearStep met (step.map id (Except.map f)) (ideal.map id (Except.map f)) := by
  rcases h with rfl | ⟨hm, failure, he, hf⟩
  · exact .refl _
  · exact .inr ⟨hm, failure, map_error.mpr he, hf⟩

end NearStep

theorem Table.isCaught_of_isLimit {failure : Failure} (h : failure.isLimit = true) :
    isCaught failure = false := by
  cases failure with
  | query cause given => cases h
  | rejected problem given => cases h
  | _ => rfl

namespace Limits

open Host (Shared)
open Table (Answer Step)

variable (limits : Limits)

-- ---------------------------------------------------------------------------
-- What meets no limit
-- ---------------------------------------------------------------------------

/-- A query whose groups are not nested too deep, if they are read at all. -/
def Reads (query : Option String) : Prop :=
  ∀ text, query = some text → Mode.ofQuery text = .structured →
    nesting text.toList ≤ limits.groups

/-- A table that can apply a query. -/
structure Answers (table : Table) : Prop where
  scalar : table.keyName.isScalar = true
  number : table.limit.kind = .bool ∨ table.limit.kind = .int ∨ table.limit.kind = .float
  limit : limits.Prints table.limit
  records : ∀ record ∈ table.records, limits.Carries record

/-- A table that can apply its query and log the name of its key field. -/
structure Serves (table : Table) : Prop extends limits.Answers table where
  name : limits.Prints table.keyName
  query : limits.Reads table.query

/-- A step that brings in nothing that meets a limit. -/
def ServesStep : Step → Prop
  | .apply query | .filter query => limits.Reads query
  | .add given | .replace given => limits.Admits given
  | .remove key | .get key => limits.Prints key
  | .append given => ∀ value ∈ given, limits.Admits value
  | .size => True

variable {limits} {met : Prop} {table : Table} {record : Record} {key given : Value}

-- ---------------------------------------------------------------------------
-- Keys
-- ---------------------------------------------------------------------------

theorem prints_key (hc : limits.Carries record) : limits.Prints (table.key record) := by
  unfold Table.key Record.key
  split
  · exact Record.forall_get (fun field hm => (hc field hm).printed) prints_null _
  · exact prints_null

/-- Keys that are found are keys of the records. -/
theorem prints_found (hk : Shared table) (hs : limits.Answers table) {query : Option String}
    {keys : List Value} (h : table.filter query = .ok keys) : ∀ key ∈ keys, limits.Prints key := by
  obtain ⟨text, hf⟩ : ∃ text, table.engine.filter text = .ok keys := by
    unfold Table.filter at h
    split at h
    · exact ⟨_, h⟩
    · cases h
  intro key hm
  rw [Engine.filter_eq hf, hk.keyField, hk.records] at hm
  obtain ⟨record, hr, rfl⟩ := List.mem_map.mp hm
  exact prints_key (hs.records record (List.mem_of_mem_filter hr))

section
variable (hs : ¬ met → limits.Answers table)
include hs

theorem key_near (record : Record) :
    Near met (record.lookUp table.keyName) (.ok (table.key record)) :=
  lookUp_near (fun hm => (hs hm).scalar) record

theorem keyText_near (hc : ¬ met → limits.Carries record) :
    Near met (limits.host.keyText table record) (.ok (table.keyText record)) :=
  (key_near hs record).next (print_near fun hm => prints_key (hc hm))

theorem placeOf?_near (text : String) {records : List Record}
    (hr : ¬ met → ∀ record ∈ records, limits.Carries record) :
    Near met (limits.host.placeOf? table text records)
      (.ok (records.findIdx? fun record => table.keyText record == text)) := by
  induction records with
  | nil => exact .refl _
  | cons record rest ih =>
    rw [Host.placeOf?, List.findIdx?_cons]
    refine (keyText_near hs fun hm => (List.forall_mem_cons.mp (hr hm)).1).next ?_
    have hi := ih fun hm => (List.forall_mem_cons.mp (hr hm)).2
    cases table.keyText record == text with
    | true => exact .refl _
    | false => exact hi.next (.refl _)

theorem indexOf?_near (hp : ¬ met → limits.Prints key) :
    Near met (limits.host.indexOf? table key) (.ok (table.indexOf? key)) :=
  (print_near hp).next (placeOf?_near hs key.shown fun hm => (hs hm).records)

theorem get?_near (hp : ¬ met → limits.Prints key) :
    Near met (limits.host.get? table key) (.ok (table.get? key)) := by
  rw [Table.get?, List.find?_eq_bind_findIdx?_getElem?]
  exact (indexOf?_near hs hp).next (.refl _)

theorem acceptable?_near (given : Value) :
    Near met (Host.acceptable? table given) (.ok (table.acceptable? given)) := by
  cases given with
  | object record => exact (key_near hs record).next (.refl _)
  | _ => exact .refl _

theorem put_near (hc : ¬ met → limits.Carries record) :
    Near met (limits.host.put table record)
      (.ok ((table.put record).records, (table.indexOf? (table.key record)).isSome)) := by
  have hp : ¬ met → limits.Prints (table.key record) := fun hm => prints_key (hc hm)
  refine (key_near hs record).next ((indexOf?_near hs hp).next ?_)
  rw [Table.put]
  cases table.indexOf? (table.key record) <;> exact .refl _

-- ---------------------------------------------------------------------------
-- Queries
-- ---------------------------------------------------------------------------

theorem overruns_near (length : Nat) :
    Near met (Query.overruns length table.limit) (.ok (Query.exceeds length table.limit)) := by
  rw [Query.overruns]
  split
  iterate 3 exact .refl _
  · next hb hi hf =>
    exact .error (fun hm => (hs hm).number.elim hb fun hn => hn.elim hi hf) rfl

theorem validate_near (query : Option String) :
    Near met (limits.host.validate query table.limit)
      ((Query.validate query table.limit).mapError (.rejected · query)) := by
  cases query with
  | none => exact .refl _
  | some text =>
    refine (overruns_near hs text.length).next ?_
    rw [Query.validate]
    cases Query.exceeds text.length table.limit with
    | true => exact (print_near fun hm => (hs hm).limit).next (.refl _)
    | false => exact .refl _

theorem having_near (texts : List String) :
    Near met (limits.host.having table texts)
      (.ok (table.records.filter fun record => texts.contains (table.keyText record))) := by
  rw [← matching_pure]
  exact .matching fun record hr =>
    (keyText_near hs fun hm => (hs hm).records record hr).next (.refl _)

section
variable (hk : Shared table) {query : Option String} (hq : ¬ met → limits.Reads query)
include hk hq

theorem filter_near : Near met (limits.host.filter table query) (table.filter query) := by
  have ht : table.filter query =
      (Query.validate query table.limit).mapError (.rejected · query) >>= table.engine.filter := by
    rw [Table.filter]
    cases Query.validate query table.limit <;> rfl
  rw [ht]
  refine (validate_near hs query).bind fun text ha => ?_
  have hx : query = some text := by
    cases query with
    | none => cases ha
    | some asked =>
      rw [Query.validate] at ha
      split at ha
      · cases ha
      · cases ha
        rfl
  exact answer_near hk.keyField (fun hm => (hs hm).scalar) (fun hm => hq hm text hx)
    fun record hr hm => (hs hm).records record (hk.records ▸ hr)

theorem found_near :
    Near met (limits.host.found table query) ((table.filter query).map (List.map Value.shown)) := by
  have hm : (table.filter query).map (List.map Value.shown) =
      table.filter query >>= fun keys => keys.mapM fun key => .ok key.shown := by
    cases table.filter query with
    | error failure => rfl
    | ok keys => exact (Attempt.mapM_of_forall fun _ _ => rfl).symm
  rw [hm]
  exact (filter_near hs hk hq).bind fun keys hf => .mapM fun key hmem =>
    print_near fun h => prints_found hk (hs h) hf key hmem

theorem apply_near : NearStep met (limits.host.apply table query) (table.apply query) := by
  cases query with
  | none => exact .refl _
  | some text =>
    cases hb : Text.isBlankText text.toList with
    | true =>
      rw [Host.apply_blank _ _ hb, Table.apply_blank _ hb]
      exact .refl _
    | false =>
      rcases found_near hs hk hq with hf | ⟨hm, failure, hf, hl⟩
      · cases ha : table.filter (some text) with
        | ok keys =>
          rw [ha] at hf
          rcases having_near hs (keys.map Value.shown) with hh | ⟨hm, failure, hh, hl⟩
          · rw [Host.apply_found _ hb hf hh, Table.apply_answered _ hb ha]
            exact .refl _
          · exact .inr ⟨hm, failure, by rw [Host.apply_lost _ hb hf hh], hl⟩
        | error failure =>
          rw [ha] at hf
          rw [Host.apply_failed _ hb hf, Table.apply_failed _ hb ha]
          exact .refl _
      · -- A failure at a limit is not made up for.
        refine .inr ⟨hm, failure, ?_, hl⟩
        rw [Host.apply_failed _ hb hf, Table.isCaught_of_isLimit hl]
        rfl

end

end

-- ---------------------------------------------------------------------------
-- What is stored
-- ---------------------------------------------------------------------------

theorem accepted_carries (hg : limits.Admits given) (ha : table.acceptable? given = some record) :
    limits.Carries record := by
  cases given with
  | object fields =>
    rw [Table.acceptable?] at ha
    split at ha
    · cases ha
      exact hg.fields
    · cases ha
  | _ => cases ha

theorem mem_put {other : Record} (h : other ∈ (table.put record).records) :
    other ∈ table.records ∨ record = other := by
  rw [Table.put] at h
  split at h
  · exact (List.mem_or_eq_of_mem_set h).imp_right Eq.symm
  · exact (List.mem_append.mp h).imp_right fun hm => (List.mem_singleton.mp hm).symm

theorem Answers.carries_put (hs : limits.Answers table) (hc : limits.Carries record) :
    ∀ other ∈ (table.put record).records, limits.Carries other := fun other h =>
  (mem_put h).elim (hs.records other) fun he => he ▸ hc

theorem ahead_tally (table : Table) (records : List Record) (report : BatchReport) (given : Value) :
    ∃ stored next, Table.tally (table.ahead records, report) given = (table.ahead stored, next) ∧
      ∀ record ∈ stored, record ∈ records ∨ table.acceptable? given = some record := by
  cases ha : (table.ahead records).acceptable? given with
  | none => exact ⟨records, _, Table.tally_refused ha report, fun record h => .inl h⟩
  | some record =>
    obtain ⟨next, ht, -⟩ := Table.tally_accepted ha report
    refine ⟨((table.ahead records).put record).records, next, ?_, fun other h => ?_⟩
    · rw [ht, Table.put_eq]
      rfl
    · exact (mem_put h).imp_right fun he : record = other => he ▸ ha

theorem carries_foldl_tally {given : List Value} {records : List Record}
    (hr : ∀ record ∈ records, limits.Carries record) (hg : ∀ value ∈ given, limits.Admits value)
    (report : BatchReport) :
    ∀ record ∈ (given.foldl Table.tally (table.ahead records, report)).1.records,
      limits.Carries record := by
  induction given generalizing records report with
  | nil => exact hr
  | cons value given ih =>
    obtain ⟨hv, hg⟩ := List.forall_mem_cons.mp hg
    obtain ⟨stored, next, ht, hm⟩ := ahead_tally table records report value
    rw [List.foldl_cons, ht]
    exact ih (fun record h => (hm record h).elim (hr record) (accepted_carries hv)) hg next

theorem Answers.carries_stored (hs : limits.Answers table) {given : List Value}
    (hg : ∀ value ∈ given, limits.Admits value) :
    ∀ record ∈ (table.stored given).records, limits.Carries record := by
  have hc : ∀ record ∈ (given.foldl Table.tally (table.ahead table.records, ⟨0, 0, []⟩)).1.records,
      limits.Carries record := carries_foldl_tally hs.records hg ⟨0, 0, []⟩
  exact hc

theorem carries_sortOut {state : Table.Sorted} (hr : ∀ record ∈ state.kept, limits.Carries record)
    (hg : limits.Admits given) :
    ∀ record ∈ (table.sortOut state given).kept, limits.Carries record := by
  rw [Table.sortOut]
  cases hx : table.acceptable? given with
  | none => exact hr
  | some record =>
    dsimp only
    split
    · exact hr
    · exact fun other ho => (List.mem_append.mp ho).elim (hr other) fun hm =>
        List.mem_singleton.mp hm ▸ accepted_carries hg hx

theorem carries_sorted {given : List Value} (hg : ∀ value ∈ given, limits.Admits value)
    {state : Table.Sorted} (hr : ∀ record ∈ state.kept, limits.Carries record) :
    ∀ record ∈ (given.foldl table.sortOut state).kept, limits.Carries record := by
  induction given generalizing state with
  | nil => exact hr
  | cons value given ih =>
    obtain ⟨hv, hg⟩ := List.forall_mem_cons.mp hg
    exact ih hg (carries_sortOut hr hv)

theorem Serves.holding (hs : limits.Serves table) {records : List Record}
    (hr : ∀ record ∈ records, limits.Carries record) : limits.Serves (table.holding records) :=
  { hs with records := hr }

section
variable (hs : ¬ met → limits.Serves table)
include hs

theorem arrival_near (hg : ¬ met → limits.Admits given) :
    Near met (limits.host.arrival table given)
      (.ok ((table.acceptable? given).map fun record => (table.put record).records)) := by
  have ha := fun hm => (hs hm).toAnswers
  refine (acceptable?_near ha given).next ?_
  cases hx : table.acceptable? given with
  | none =>
    cases given with
    | object fields => exact (print_near fun hm => (hs hm).name).next (.refl _)
    | _ => exact .refl _
  | some record =>
    exact (put_near ha fun hm => accepted_carries (hg hm) hx).next (.refl _)

theorem departure_near (hp : ¬ met → limits.Prints key) (hn : key ≠ .null) :
    Near met (limits.host.departure table key) (.ok (table.indexOf? key)) := by
  have hi := indexOf?_near (fun hm => (hs hm).toAnswers) hp
  cases key with
  | null => exact absurd rfl hn
  | _ =>
    refine hi.next ?_
    cases table.indexOf? _ with
    | none => exact (print_near fun hm => (hs hm).name).next (.refl _)
    | some index => exact .refl _

theorem refuse_near (hg : ¬ met → limits.Admits given) :
    Near met (limits.host.refuse table given) (.ok ()) :=
  (print_near fun hm => (hs hm).name).next
    ((quote_near fun hm => (hg hm).printed).next (.refl _))

/-- On a host the engine has the records of a batch at once, and otherwise
only when the query is applied. -/
theorem tally_near {records : List Record}
    (hr : ¬ met → ∀ record ∈ records, limits.Carries record) (hg : ¬ met → limits.Admits given)
    (report : BatchReport) :
    Near met (limits.host.tally (table.holding records, report) given)
      (.ok ((Table.tally (table.ahead records, report) given).map
        (fun last => table.holding last.records) id)) := by
  have hh := fun hm => (hs hm).holding (hr hm)
  have ha := fun hm => (hh hm).toAnswers
  refine (acceptable?_near ha given).next ?_
  cases hx : (table.holding records).acceptable? given with
  | none =>
    have hi : (table.ahead records).acceptable? given = none := hx
    rw [Table.tally_refused hi]
    exact (refuse_near hh hg).next (.refl _)
  | some record =>
    have hi : (table.ahead records).acceptable? given = some record := hx
    have hr : (table.holding records).records = (table.ahead records).records := rfl
    have hp : ((table.holding records).put record).records =
        ((table.ahead records).put record).records := Table.put_congr hr rfl record
    refine (put_near ha fun hm => accepted_carries (hg hm) hx).next ?_
    have ht : (table.holding records).indexOf? ((table.holding records).key record) =
      (table.ahead records).indexOf? ((table.ahead records).key record) := rfl
    rw [hp, ht]
    simp only [Table.tally, hi]
    cases (table.ahead records).indexOf? ((table.ahead records).key record) <;> exact .refl _

theorem tallyAll_near {given : List Value} {records : List Record}
    (hr : ¬ met → ∀ record ∈ records, limits.Carries record)
    (hg : ¬ met → ∀ value ∈ given, limits.Admits value) (report : BatchReport) :
    NearStep met (limits.host.tallyAll (table.holding records, report) given)
      ((given.foldl Table.tally (table.ahead records, report)).map
        (fun last => table.holding last.records) .ok) := by
  induction given generalizing records report with
  | nil => exact .refl _
  | cons value given ih =>
    obtain ⟨stored, next, ht, hm⟩ := ahead_tally table records report value
    have hv := fun h => (List.forall_mem_cons.mp (hg h)).1
    rw [Host.tallyAll, List.foldl_cons, ht]
    rcases tally_near hs hr hv report with he | ⟨hm, failure, he, hl⟩
    · rw [he, ht]
      exact ih (fun h record hrec => (hm record hrec).elim (hr h record) (accepted_carries (hv h)))
        (fun h => (List.forall_mem_cons.mp (hg h)).2) next
    · rw [he]
      exact .inr ⟨hm, failure, rfl, hl⟩

end

theorem keyText_ok {text : String} (h : limits.host.keyText table record = .ok text) :
    text = table.keyText record := by
  have hn : Near True (limits.host.keyText table record) (.ok (table.keyText record)) :=
    keyText_near (fun hm => absurd trivial hm) fun hm => absurd trivial hm
  rcases hn with he | ⟨-, failure, he, -⟩
  · exact Except.ok.inj (h.symm.trans he)
  · rw [he] at h
    cases h

/-- Records whose keys were printed. -/
def Told (limits : Limits) (table : Table) (records : List Record) : Prop :=
  ∀ record ∈ records, limits.host.keyText table record = .ok (table.keyText record)

theorem told_sortOut {state next : Table.Sorted} (hold : limits.Told table state.kept)
    (h : limits.host.sortOut table state given = .ok next) : limits.Told table next.kept := by
  obtain ⟨accepted, -, h⟩ := Attempt.bind_ok.mp h
  cases accepted with
  | none =>
    obtain ⟨-, h⟩ := Attempt.then_ok.mp h
    cases h
    exact hold
  | some record =>
    obtain ⟨text, ht, h⟩ := Attempt.bind_ok.mp h
    split at h
    · cases h
      exact hold
    · cases h
      intro other ho
      rcases List.mem_append.mp ho with ho | ho
      · exact hold other ho
      · obtain rfl := List.mem_singleton.mp ho
        rw [ht, keyText_ok ht]

section
variable (hs : ¬ met → limits.Serves table)
include hs

theorem sortOut_near {state : Table.Sorted} (hold : limits.Told table state.kept)
    (hg : ¬ met → limits.Admits given) :
    Near met (limits.host.sortOut table state given) (.ok (table.sortOut state given)) := by
  have ha := fun hm => (hs hm).toAnswers
  refine (acceptable?_near ha given).next ?_
  rw [Table.sortOut]
  cases hx : table.acceptable? given with
  | none => exact (refuse_near hs hg).next (.refl _)
  | some record =>
    refine (keyText_near ha fun hm => accepted_carries (hg hm) hx).next ?_
    have hd : (state.kept.any fun other =>
          (limits.host.keyText table other).toOption == some (table.keyText record)) =
        state.kept.any fun other => table.keyText other == table.keyText record := by
      rw [Bool.eq_iff_iff, List.any_eq_true, List.any_eq_true]
      refine exists_congr fun other => and_congr_right fun ho => ?_
      rw [hold other ho]
      rfl
    rw [hd]
    dsimp only
    cases state.kept.any fun other => table.keyText other == table.keyText record <;>
      exact .refl _

theorem foldlM_sortOut_near {given : List Value} (hg : ¬ met → ∀ value ∈ given, limits.Admits value)
    {state : Table.Sorted} (hold : limits.Told table state.kept) :
    Near met (given.foldlM (limits.host.sortOut table) state)
      (.ok (given.foldl table.sortOut state)) := by
  induction given generalizing state with
  | nil => exact .refl _
  | cons value given ih =>
    rw [List.foldlM_cons, List.foldl_cons]
    rcases sortOut_near hs hold fun hm => (List.forall_mem_cons.mp (hg hm)).1 with
      he | ⟨hm, failure, he, hl⟩
    · rw [he]
      exact ih (fun hm => (List.forall_mem_cons.mp (hg hm)).2) (told_sortOut hold he)
    · rw [he]
      exact .inr ⟨hm, failure, rfl, hl⟩

end

-- ---------------------------------------------------------------------------
-- Steps
-- ---------------------------------------------------------------------------

section
variable (hk : Shared table) (hs : ¬ met → limits.Serves table)
include hk hs

theorem reselect_near {α : Type} {records : List Record} (result : α)
    (hr : ¬ met → ∀ record ∈ records, limits.Carries record) :
    NearStep met (limits.host.reselect table records result)
      ((table.reselect records).map id (Except.map fun _ => result)) := by
  have ha : NearStep met (limits.host.apply (table.holding records) table.query)
      (table.reselect records) :=
    apply_near (fun hm => ((hs hm).holding (hr hm)).toAnswers) (hk.holding records)
      fun hm => (hs hm).query
  exact ha.map fun _ => result

theorem add_near (hg : ¬ met → limits.Admits given) :
    NearStep met (limits.host.add table given) (table.add given) := by
  rcases arrival_near hs hg with ha | ⟨hm, failure, ha, hl⟩
  · rw [Host.add, ha]
    cases hx : table.acceptable? given with
    | none =>
      rw [Table.add_refused hx]
      exact .refl _
    | some record =>
      rw [Table.add_accepted hx]
      exact reselect_near hk hs true fun hm =>
        (hs hm).carries_put (accepted_carries (hg hm) hx)
  · exact .inr ⟨hm, failure, by rw [Host.add, ha], hl⟩

theorem remove_near (hp : ¬ met → limits.Prints key) :
    NearStep met (limits.host.remove table key) (table.remove key) := by
  by_cases hn : key = .null
  · rw [Table.remove_absent (.inl hn), hn]
    exact .refl _
  · rcases departure_near hs hp hn with hd | ⟨hm, failure, hd, hl⟩
    · rw [Host.remove, hd]
      cases hi : table.indexOf? key with
      | none =>
        rw [Table.remove_absent (.inr hi)]
        exact .refl _
      | some index =>
        rw [Table.remove_present hn hi]
        exact reselect_near hk hs _ fun hm record hr =>
          (hs hm).records record (List.mem_of_mem_eraseIdx hr)
    · exact .inr ⟨hm, failure, by rw [Host.remove, hd], hl⟩

theorem append_near {given : List Value} (hg : ¬ met → ∀ value ∈ given, limits.Admits value) :
    NearStep met (limits.host.append table given) (table.append given) := by
  obtain ⟨last, report, hf⟩ : ∃ last report,
    given.foldl Table.tally (table, ⟨0, 0, []⟩) = (last, report) := ⟨_, _, rfl⟩
  have ht := tallyAll_near hs (fun hm => (hs hm).records) hg ⟨0, 0, []⟩
  have ha : table.ahead table.records = table := rfl
  rw [hk.holding_self, ha, hf] at ht
  rcases ht with ht | ⟨hm, failure, he, hl⟩
  · rw [Host.append, ht]
    by_cases hn : report.added + report.updated = 0
    · obtain ⟨he, rfl⟩ := Table.append_idle hf hn
      rw [he, Prod.map_apply, hk.holding_self]
      dsimp only
      rw [if_pos (beq_iff_eq.mpr hn)]
      exact .refl _
    · rw [Table.append_stored hf hn]
      dsimp only [Prod.map_apply]
      rw [if_neg fun h => hn (beq_iff_eq.mp h)]
      refine reselect_near hk hs report fun hm => ?_
      have hc := (hs hm).carries_stored (hg hm)
      rwa [Table.stored, hf] at hc
  · obtain ⟨stored, hx⟩ : ∃ stored,
        limits.host.tallyAll (table, ⟨0, 0, []⟩) given = (stored, .error failure) :=
      ⟨_, Prod.ext rfl he⟩
    exact .inr ⟨hm, failure, by rw [Host.append, hx], hl⟩

theorem replace_near (hg : ¬ met → limits.Admits given) :
    NearStep met (limits.host.replace table given) (table.replace given) := by
  cases given with
  | list candidates =>
    have hn : limits.Told table (⟨[], [], []⟩ : Table.Sorted).kept := fun record hr => by cases hr
    rcases foldlM_sortOut_near hs (fun hm => (hg hm).items) hn with he | ⟨hm, failure, he, hl⟩
    · rw [Host.replace, he]
      exact reselect_near hk hs _ fun hm =>
        carries_sorted (hg hm).items fun record hr => by cases hr
    · exact .inr ⟨hm, failure, by rw [Host.replace, he], hl⟩
  | _ => exact .refl _

/-- On a host a step does what it does without one, or it fails at a limit. -/
theorem perform_near {step : Step} (hg : ¬ met → limits.ServesStep step) :
    NearStep met (limits.host.perform table step) (table.perform step) := by
  have ha := fun hm => (hs hm).toAnswers
  cases step with
  | apply query => exact (apply_near ha hk hg).map _
  | filter query => exact .of_near ((filter_near ha hk hg).map _) table
  | add given => exact (add_near hk hs hg).map _
  | remove key => exact (remove_near hk hs hg).map _
  | append given => exact (append_near hk hs hg).map _
  | replace given => exact (replace_near hk hs hg).map _
  | get key => exact .of_near ((get?_near ha hg).map _) table
  | size => exact .refl _

end

-- ---------------------------------------------------------------------------
-- Sessions
-- ---------------------------------------------------------------------------

/-- Up to the first failure at a limit, a session on a host is the session
without one. -/
theorem trace_of_no_limit (hk : Shared table) {steps : List Step}
    (h : ∀ entry ∈ limits.host.trace table steps, ∀ failure, entry.2 = .error failure →
      failure.isLimit = false) : limits.host.trace table steps = table.trace steps := by
  induction steps generalizing table with
  | nil => rfl
  | cons step rest ih =>
    obtain ⟨hf, hr⟩ := List.forall_mem_cons.mp h
    have hn : NearStep True (limits.host.perform table step) (table.perform step) :=
      perform_near hk (fun hm => absurd trivial hm) fun hm => absurd trivial hm
    rcases hn with he | ⟨-, failure, he, hl⟩
    · rw [Host.trace, Table.trace, ih (hk.perform step) hr, he]
    · rw [hf failure he] at hl
      cases hl

section
variable (hs : limits.Serves table)
include hs

theorem Serves.apply_next {query : Option String} (hq : limits.Reads query) :
    limits.Serves (table.apply query).1 := by
  obtain ⟨filtered, he⟩ := table.apply_frame query
  rw [he]
  exact { hs with query := hq }

theorem Serves.reselect_next {records : List Record}
    (hr : ∀ record ∈ records, limits.Carries record) : limits.Serves (table.reselect records).1 :=
  (hs.holding hr).apply_next hs.query

/-- A step brings a table that meets no limit to no limit. -/
theorem Serves.next {step : Step} (hg : limits.ServesStep step) :
    limits.Serves (table.perform step).1 := by
  cases step with
  | apply query => exact hs.apply_next hg
  | filter query => exact hs
  | get key => exact hs
  | size => exact hs
  | add given =>
    cases ha : table.acceptable? given with
    | none => rw [Table.perform, Table.add_refused ha]; exact hs
    | some record =>
      rw [Table.perform, Table.add_accepted ha]
      exact hs.reselect_next (hs.carries_put (accepted_carries hg ha))
  | remove key =>
    cases hi : table.indexOf? key with
    | none => rw [Table.perform, Table.remove_absent (.inr hi)]; exact hs
    | some index =>
      by_cases hn : key = .null
      · rw [Table.perform, Table.remove_absent (.inl hn)]; exact hs
      · rw [Table.perform, Table.remove_present hn hi]
        exact hs.reselect_next fun record hm => hs.records record (List.mem_of_mem_eraseIdx hm)
  | append given =>
    obtain ⟨report, ⟨he, -⟩ | he⟩ := table.append_eq given
    · rw [Table.perform, he]; exact hs
    · rw [Table.perform, he]
      exact hs.reselect_next (hs.carries_stored hg)
  | replace given =>
    cases given with
    | list candidates =>
      obtain ⟨report, he⟩ := table.replace_list candidates
      rw [Table.perform, he]
      exact hs.reselect_next (carries_sorted hg.items fun record hr => by cases hr)
    | _ => exact hs

end

/-- A session that brings in nothing that meets a limit is the same on a host
as without one. -/
theorem Serves.trace (hs : limits.Serves table) (hk : Shared table) {steps : List Step}
    (hg : ∀ step ∈ steps, limits.ServesStep step) :
    limits.host.trace table steps = table.trace steps := by
  induction steps generalizing table with
  | nil => rfl
  | cons step rest ih =>
    obtain ⟨hf, hr⟩ := List.forall_mem_cons.mp hg
    have he : limits.host.perform table step = table.perform step :=
      (perform_near hk (fun _ => hs) fun _ => hf).eq
    have hn : Shared (table.perform step).1 := he ▸ hk.perform step
    rw [Host.trace, Table.trace, he, ih (hs.next hf) hn hr]

end Limits

end RecordQuery
