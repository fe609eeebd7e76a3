import RecordQuery.Proofs.Table.OrderedMap
import RecordQuery.Proofs.Table.Session

/-!
# Tables as maps

A table whose records have distinct key texts is an ordered map of them, and
stays one: whatever is stored, removed or replaced, and also when applying
the query to the changed records fails, the records are those of the map on
which the same was done.
-/

namespace RecordQuery.Table

open OrderedMap (upsert upsert_of_place upsert_of_absent filter_upsert filter_eraseP
  find?_filter_other)

-- ---------------------------------------------------------------------------
-- What a table does to its records
-- ---------------------------------------------------------------------------

section
variable {table : Table} {key : Value} {index : Nat}

theorem put_records (table : Table) (record : Record) :
    (table.put record).records = upsert table.keyText record table.records := by
  unfold put
  cases hi : table.indexOf? (table.key record) with
  | some index => exact upsert_of_place hi
  | none => exact upsert_of_absent hi

theorem put_keyField (table : Table) (record : Record) :
    (table.put record).keyField = table.keyField := by
  rw [put_eq]
  rfl

theorem reselect_frame (table : Table) (records : List Record) :
    ∃ filtered, (table.reselect records).1 = { table.holding records with filtered := filtered } :=
  (table.holding records).apply_frame table.query

theorem reselect_again (table : Table) (records : List Record) :
    ((table.reselect records).1.apply table.query).2 = (table.reselect records).2 := by
  obtain ⟨filtered, he⟩ := table.reselect_frame records
  rw [he]
  show _ = ((table.holding records).apply table.query).2
  apply outcome_congr <;> rfl

theorem get?_none_iff : table.get? key = none ↔ table.indexOf? key = none := by
  rw [get?, indexOf?, List.find?_eq_none, List.findIdx?_eq_none_iff]
  simp

theorem get?_of_indexOf (h : table.indexOf? key = some index) :
    table.get? key = table.records[index]? := by
  rw [get?, List.find?_eq_bind_findIdx?_getElem?]
  exact congrArg (Option.bind · (table.records[·]?)) h

theorem eraseIdx_indexOf (h : table.indexOf? key = some index) :
    table.records.eraseIdx index =
      table.records.eraseP fun record => table.keyText record == key.shown := by
  rw [List.eraseP_eq_eraseIdx]
  unfold indexOf? at h
  rw [h]

end

-- ---------------------------------------------------------------------------
-- What a step does to a map
-- ---------------------------------------------------------------------------

/-- Stores a candidate in the place of the record with its key, or at the
end, unless it is refused. -/
def store (table : Table) (map : OrderedMap Record) (given : Value) : OrderedMap Record :=
  match table.acceptable? given with
  | some record => map.put (table.keyText record) record
  | none => map

/-- Stores a candidate at the end, unless it is refused or its key is there. -/
def keep (table : Table) (map : OrderedMap Record) (given : Value) : OrderedMap Record :=
  match table.acceptable? given with
  | some record =>
    if (map.find? (table.keyText record)).isSome then map
    else map.put (table.keyText record) record
  | none => map

def effect (table : Table) (map : OrderedMap Record) : Step → OrderedMap Record
  | .add given => table.store map given
  | .remove .null => map
  | .remove key => map.erase key.shown
  | .append given => given.foldl table.store map
  | .replace (.list given) => given.foldl table.keep (.ofItems table.keyText [] List.nodup_nil)
  | _ => map

def Is (table : Table) (map : OrderedMap Record) : Prop := map.Lists table.keyText table.records

section
variable {table : Table} {map : OrderedMap Record} {given key : Value} {record : Record}
  {records : List Record}

theorem acceptable?_congr {first second : Table} (h : first.keyField = second.keyField) :
    first.acceptable? = second.acceptable? := by
  funext given
  cases given with
  | object record => rw [acceptable?, acceptable?, key, key, h]
  | _ => rfl

theorem store_congr {first second : Table} (h : first.keyField = second.keyField) :
    first.store = second.store := by
  funext map given
  rw [store, store, acceptable?_congr h, keyText_congr h]

theorem keep_congr {first second : Table} (h : first.keyField = second.keyField) :
    first.keep = second.keep := by
  funext map given
  rw [keep, keep, acceptable?_congr h, keyText_congr h]

theorem effect_congr {first second : Table} (h : first.keyField = second.keyField) :
    first.effect = second.effect := by
  funext map step
  unfold effect
  rw [store_congr h, keep_congr h, keyText_congr h]

theorem Is.lists_put (hm : table.Is map) (record : Record) :
    (map.put (table.keyText record) record).Lists table.keyText (table.put record).records :=
  put_records table record ▸ hm.put record

theorem Is.lists_erase (hm : table.Is map) {index : Nat} (h : table.indexOf? key = some index) :
    (map.erase key.shown).Lists table.keyText (table.records.eraseIdx index) :=
  eraseIdx_indexOf h ▸ hm.erase key.shown

theorem Is.store (hm : table.Is map) (ha : table.acceptable? given = some record) :
    (table.put record).Is (table.store map given) := by
  rw [Table.store, ha, Is, keyText_congr (table.put_keyField record)]
  exact hm.lists_put record

theorem Is.tally (hm : table.Is map) (report : BatchReport) (given : Value) :
    (Table.tally (table, report) given).1.Is (table.store map given) := by
  cases ha : table.acceptable? given with
  | none =>
    rw [tally_refused ha, Table.store, ha]
    exact hm
  | some record =>
    obtain ⟨next, he, -⟩ := tally_accepted ha report
    rw [he]
    exact hm.store ha

theorem Is.foldl_tally (hm : table.Is map) (report : BatchReport) (given : List Value) :
    (given.foldl Table.tally (table, report)).1.Is (given.foldl table.store map) := by
  induction given generalizing table map report with
  | nil => exact hm
  | cons value given ih =>
    have hk := store_congr (batched_tally (table, report) value).keyField
    exact hk ▸ ih (hm.tally report value) _

theorem lists_sortOut {state : Sorted} (hm : map.Lists table.keyText state.kept) (given : Value) :
    (table.keep map given).Lists table.keyText (table.sortOut state given).kept := by
  unfold keep sortOut
  cases ha : table.acceptable? given with
  | none => exact hm
  | some record =>
    have hs : (map.find? (table.keyText record)).isSome =
        state.kept.any fun other => table.keyText other == table.keyText record := by
      rw [hm.find, List.isSome_find?]
    dsimp only
    rw [hs]
    split
    · exact hm
    · next hn =>
      have hi : state.kept.findIdx? (fun other => table.keyText other == table.keyText record) =
          none := by
        simpa [List.findIdx?_eq_none_iff] using hn
      exact upsert_of_absent hi ▸ hm.put record

theorem lists_foldl_sortOut {state : Sorted} (hm : map.Lists table.keyText state.kept)
    (given : List Value) : (given.foldl table.keep map).Lists table.keyText
      (given.foldl table.sortOut state).kept := by
  induction given generalizing map state with
  | nil => exact hm
  | cons value given ih => exact ih (lists_sortOut hm value)

-- ---------------------------------------------------------------------------
-- Every step
-- ---------------------------------------------------------------------------

theorem Is.apply (hm : table.Is map) (query : Option String) : (table.apply query).1.Is map := by
  obtain ⟨filtered, he⟩ := table.apply_frame query
  rw [he]
  exact hm

theorem is_reselect (h : map.Lists table.keyText records) : (table.reselect records).1.Is map := by
  obtain ⟨filtered, he⟩ := table.reselect_frame records
  rw [he]
  exact h

theorem perform_keyField (table : Table) (step : Step) :
    (table.perform step).1.keyField = table.keyField := by
  rcases table.perform_cases step with ⟨outcome, he⟩ | ⟨query, answer, he⟩ | ⟨records, answer, he⟩
  · rw [he]
  · rw [he]
    exact table.apply_keyField query
  · rw [he]
    exact (table.holding records).apply_keyField table.query

theorem is_add (hm : table.Is map) (given : Value) :
    (table.add given).1.Is (table.store map given) := by
  cases ha : table.acceptable? given with
  | none =>
    rw [add_refused ha, Table.store, ha]
    exact hm
  | some record =>
    rw [add_accepted ha, Table.store, ha]
    exact is_reselect (hm.lists_put record)

theorem is_remove (hm : table.Is map) (hn : key ≠ .null) :
    (table.remove key).1.Is (map.erase key.shown) := by
  cases hi : table.indexOf? key with
  | none =>
    -- No record has the key, so that erasing it leaves the records as they are.
    have ha : ∀ record ∈ table.records, ¬(table.keyText record == key.shown) = true := by
      simpa [indexOf?, List.findIdx?_eq_none_iff] using hi
    rw [remove_absent (.inr hi), Is, ← List.eraseP_of_forall_not ha]
    exact hm.erase key.shown
  | some index =>
    rw [remove_present hn hi]
    exact is_reselect (hm.lists_erase hi)

theorem Is.perform (hm : table.Is map) (step : Step) :
    (table.perform step).1.Is (table.effect map step) := by
  cases step with
  | apply query => exact hm.apply query
  | filter query => exact hm
  | get key => exact hm
  | size => exact hm
  | add given => exact is_add hm given
  | remove key =>
    cases key with
    | null => exact hm
    | _ => exact is_remove hm Value.noConfusion
  | append given =>
    have hs := hm.foldl_tally ⟨0, 0, []⟩ given
    obtain ⟨report, ⟨he, hk⟩ | he⟩ := table.append_eq given
    · rw [Table.perform, he]
      show table.Is (given.foldl table.store map)
      rwa [← stored, hk] at hs
    · rw [Table.perform, he]
      have hk := keyText_congr (batched_foldl given (table, ⟨0, 0, []⟩)).keyField
      rw [Is, hk] at hs
      exact is_reselect hs
  | replace given =>
    cases given with
    | list candidates =>
      have hs : (OrderedMap.ofItems table.keyText [] List.nodup_nil).Lists table.keyText [] :=
        OrderedMap.lists_ofItems _
      exact is_reselect (lists_foldl_sortOut hs candidates)
    | _ => exact hm

/-- Step by step a table does what is done to its map. -/
theorem Is.after (hm : table.Is map) (steps : List Step) :
    (table.after steps).Is (steps.foldl table.effect map) := by
  induction steps generalizing table map with
  | nil => exact hm
  | cons step steps ih =>
    have he := effect_congr (table.perform_keyField step)
    rw [List.foldl_cons, ← he]
    exact ih (he ▸ hm.perform step)

end

-- ---------------------------------------------------------------------------
-- What a table shows of its map
-- ---------------------------------------------------------------------------

/-- From a table to the outcome of a step that changed it to a map, the
records under all other keys stay what they were and in their order. The
answer is withheld if the query cannot be applied to the changed records. -/
structure Changed {α : Type} (table : Table) (key : String) (map : OrderedMap Record) (answer : α)
    (outcome : Table × Except Failure α) : Prop where
  holds : outcome.1.Is map
  others : ∀ other : Value, other.shown ≠ key → outcome.1.get? other = table.get? other
  order : (outcome.1.records.filter fun record => outcome.1.keyText record != key) =
    table.records.filter fun record => table.keyText record != key
  answer : outcome.2 = (outcome.1.apply table.query).2.map fun _ => answer

structure Shows (table : Table) (map : OrderedMap Record) : Prop where
  distinct : (table.records.map table.keyText).Nodup
  holds : table.Is map
  size : table.perform .size = (table, .ok (.count map.size))
  get : ∀ key, table.perform (.get key) = (table, .ok (.found (map.find? key.shown)))
  add : ∀ record : Record, (table.key record).isTruthy = true →
    Changed table (table.keyText record) (map.put (table.keyText record) record) true
      (table.add (.object record))
  refuse : ∀ given : Value,
    (∀ record, given = .object record → (table.key record).isTruthy = false) →
    table.add given = (table, .ok false)
  remove : ∀ (key : Value) (record : Record), key ≠ .null → map.find? key.shown = some record →
    Changed table key.shown (map.erase key.shown) (some record) (table.remove key)
  absent : ∀ key : Value, key = .null ∨ map.find? key.shown = none →
    table.remove key = (table, .ok none)

section
variable {table : Table} {map : OrderedMap Record} {records : List Record} {key : Value}

theorem Is.get? (hm : table.Is map) (key : Value) : table.get? key = map.find? key.shown :=
  (hm.find key.shown).symm

/-- A selection made again is one change of the map if the records under all
other keys are the same. -/
theorem changed_reselect {α : Type} {text : String} {answer : α}
    (hm : map.Lists table.keyText records)
    (ho : (records.filter fun record => table.keyText record != text) =
      table.records.filter fun record => table.keyText record != text) :
    Changed table text map answer
      ((table.reselect records).map id (Except.map fun _ => answer)) := by
  have hk : (table.reselect records).1.keyText = table.keyText :=
    keyText_congr ((table.holding records).apply_keyField table.query)
  have hr : (table.reselect records).1.records = records := by
    obtain ⟨filtered, he⟩ := table.reselect_frame records
    rw [he]
    rfl
  refine ⟨is_reselect hm, fun other hn => ?_, ?_, ?_⟩
  · show (table.reselect records).1.get? other = _
    rw [get?, get?, hk, hr, ← find?_filter_other hn records, ho, find?_filter_other hn]
  · show (List.filter (fun record => (table.reselect records).1.keyText record != text)
      (table.reselect records).1.records) = _
    rw [hk, hr, ho]
  · show _ = ((table.reselect records).1.apply table.query).2.map _
    rw [reselect_again]
    rfl

theorem Is.changed_add (hm : table.Is map) {record : Record}
    (ht : (table.key record).isTruthy = true) :
    Changed table (table.keyText record) (map.put (table.keyText record) record) true
      (table.add (.object record)) := by
  have ha : table.acceptable? (.object record) = some record := if_pos ht
  rw [add_accepted ha]
  refine changed_reselect (hm.lists_put record) ?_
  rw [put_records]
  exact filter_upsert record table.records

theorem Is.changed_remove (hm : table.Is map) {record : Record} (hn : key ≠ .null)
    (hf : map.find? key.shown = some record) :
    Changed table key.shown (map.erase key.shown) (some record) (table.remove key) := by
  rw [← hm.get?] at hf
  cases hi : table.indexOf? key with
  | none => simp [get?_none_iff.mpr hi] at hf
  | some index =>
    rw [remove_present hn hi, ← get?_of_indexOf hi, hf]
    refine changed_reselect (hm.lists_erase hi) ?_
    rw [eraseIdx_indexOf hi]
    exact filter_eraseP table.records key.shown

theorem acceptable?_eq_none {given : Value}
    (h : ∀ record, given = .object record → (table.key record).isTruthy = false) :
    table.acceptable? given = none := by
  cases given with
  | object record =>
    rw [acceptable?, h record rfl]
    rfl
  | _ => rfl

theorem Is.shows (hm : table.Is map) : table.Shows map where
  distinct := hm.distinct
  holds := hm
  size := by rw [Table.perform, hm.size]
  get key := by rw [Table.perform, hm.get?]
  add _ ht := hm.changed_add ht
  refuse _ h := add_refused (acceptable?_eq_none h)
  remove _ _ hn hf := hm.changed_remove hn hf
  absent _ h := remove_absent (h.imp_right fun hf => get?_none_iff.mp (hm.get? _ ▸ hf))

end

/-- Records with distinct key texts make a table that is the map of them, and
after any session the table is the map on which the same was done. -/
theorem session_shows (records : List Record) (keyField : Value) (settings : Settings)
    (h : (records.map (new records keyField settings).keyText).Nodup) (steps : List Step) :
    ((new records keyField settings).after steps).Shows
      (steps.foldl (new records keyField settings).effect
        (.ofItems (new records keyField settings).keyText records h)) := by
  have hm : (new records keyField settings).Is
      (.ofItems (new records keyField settings).keyText records h) := OrderedMap.lists_ofItems h
  exact (hm.after steps).shows

/-- Records whose keys are a number, a text and not there. -/
def mixed : List Record := [[("id", .int 1)], [("id", .text "a")], [("name", .text "x")]]

/-- Stores in a place, removes, and stores at the end under a query that fails. -/
def changes : List Step := [
  .add (.object [("id", .text "1"), ("name", .text "x")]),
  .remove (.text "a"),
  .apply none,
  .append [.object [("id", .int 2)], .object [("id", .int 0)]]]

theorem mixed_shows :
    (mixed.map (new mixed .null .default).keyText).Nodup ∧
      ∃ map : OrderedMap Record, map.keys = ["1", "None", "2"] ∧
        map.find? "1" = some [("id", .text "1"), ("name", .text "x")] ∧
        ((new mixed .null .default).after changes).Shows map :=
  have h : (mixed.map (new mixed .null .default).keyText).Nodup := by decide +kernel
  ⟨h, _, by rfl, by rfl, session_shows mixed .null .default h changes⟩

end RecordQuery.Table
