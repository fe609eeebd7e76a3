import RecordQuery.Proofs.Occurrence
import RecordQuery.Proofs.Table.Batch

/-!
# Replacing all records

A replacement sorts its candidates into three parts, each in their order: what
cannot be stored, the first record of every key text, and records that repeat
a key text. The first ones become the records of the table, and replacing them
by themselves leaves the table as it is.
-/

namespace RecordQuery.Table

open Occurrence (firsts repeats firsts_concat repeats_concat firsts_sublist mem_keys_firsts
  nodup_keys_firsts length_firsts_add_length_repeats firsts_eq_self repeats_eq_nil)

section
variable {table : Table} {given : List Value} {report : ReplaceReport}

def accepted (table : Table) (given : List Value) : List Record :=
  given.filterMap table.acceptable?

def refused (table : Table) (given : List Value) : List Value :=
  given.filter fun value => (table.acceptable? value).isNone

theorem accepted_append (first second : List Value) :
    table.accepted (first ++ second) = table.accepted first ++ table.accepted second :=
  List.filterMap_append

theorem refused_append (first second : List Value) :
    table.refused (first ++ second) = table.refused first ++ table.refused second :=
  List.filter_append ..

theorem length_accepted_add_length_refused (table : Table) (given : List Value) :
    (table.accepted given).length + (table.refused given).length = given.length := by
  induction given with
  | nil => rfl
  | cons value rest ih =>
    simp only [accepted, refused] at ih ⊢
    cases ha : table.acceptable? value <;> simp [ha] <;> omega

theorem accepted_objects {records : List Record}
    (h : ∀ record ∈ records, (table.key record).isTruthy = true) :
    table.accepted (records.map .object) = records := by
  rw [accepted, List.filterMap_map]
  refine (List.filterMap_congr fun record hr => ?_).trans List.filterMap_some
  exact if_pos (h record hr)

theorem refused_objects {records : List Record}
    (h : ∀ record ∈ records, (table.key record).isTruthy = true) :
    table.refused (records.map .object) = [] := by
  have hl := length_accepted_add_length_refused table (records.map .object)
  rw [accepted_objects h, List.length_map] at hl
  exact List.length_eq_zero_iff.mp (by omega)

theorem isTruthy_of_mem_accepted {record : Record} (h : record ∈ table.accepted given) :
    (table.key record).isTruthy = true := by
  obtain ⟨value, -, ha⟩ := List.mem_filterMap.mp h
  cases value with
  | object fields =>
    rw [acceptable?] at ha
    split at ha
    · next ht =>
      obtain rfl := Option.some.inj ha
      exact ht
    · cases ha
  | _ => cases ha

-- ---------------------------------------------------------------------------
-- Sorting out
-- ---------------------------------------------------------------------------

/-- One candidate goes to the end of one part. A key text is among those kept
if and only if some candidate so far had it. -/
theorem sortOut_parts (table : Table) (given : List Value) (value : Value) :
    table.sortOut ⟨firsts table.keyText (table.accepted given), table.refused given,
        (repeats table.keyText (table.accepted given)).map table.keyText⟩ value =
      ⟨firsts table.keyText (table.accepted (given ++ [value])), table.refused (given ++ [value]),
        (repeats table.keyText (table.accepted (given ++ [value]))).map table.keyText⟩ := by
  rw [accepted_append, refused_append, sortOut]
  cases ha : table.acceptable? value with
  | none => simp [accepted, refused, ha]
  | some record =>
    have hk : (firsts table.keyText (table.accepted given)).any
          (fun other => table.keyText other == table.keyText record) =
        decide (table.keyText record ∈ (table.accepted given).map table.keyText) := by
      rw [Bool.eq_iff_iff, decide_eq_true_iff, ← mem_keys_firsts, List.mem_map, List.any_eq_true]
      simp only [beq_iff_eq]
    have hs : table.accepted [value] = [record] := by simp [accepted, ha]
    have hr : table.refused [value] = [] := by simp [refused, ha]
    simp only [hk, hs, hr, firsts_concat, repeats_concat]
    split <;> simp_all

theorem foldl_sortOut (table : Table) (given : List Value) :
    given.foldl table.sortOut ⟨[], [], []⟩ =
      ⟨firsts table.keyText (table.accepted given), table.refused given,
        (repeats table.keyText (table.accepted given)).map table.keyText⟩ := by
  induction given using List.reverseRecOn with
  | nil => rfl
  | append_singleton given value ih =>
    rw [List.foldl_append, ih]
    exact sortOut_parts table given value

theorem replace_eq (table : Table) (given : List Value) :
    table.replace (.list given) =
      (table.reselect (firsts table.keyText (table.accepted given))).map id (Except.map fun _ =>
        ⟨true, (firsts table.keyText (table.accepted given)).length, table.refused given,
          (repeats table.keyText (table.accepted given)).map table.keyText⟩) := by
  rw [replace, foldl_sortOut, sync_eq]

-- ---------------------------------------------------------------------------
-- The outcome
-- ---------------------------------------------------------------------------

theorem records_replace (table : Table) (given : List Value) :
    (table.replace (.list given)).1.records = firsts table.keyText (table.accepted given) := by
  obtain ⟨filtered, he⟩ := table.reselect_frame (firsts table.keyText (table.accepted given))
  rw [replace_eq, Prod.map_fst, he]
  rfl

theorem keyField_replace (table : Table) (given : List Value) :
    (table.replace (.list given)).1.keyField = table.keyField := by
  obtain ⟨filtered, he⟩ := table.reselect_frame (firsts table.keyText (table.accepted given))
  rw [replace_eq, Prod.map_fst, he]
  rfl

theorem nodup_keys_replace (table : Table) (given : List Value) :
    ((table.replace (.list given)).1.records.map table.keyText).Nodup := by
  rw [records_replace]
  exact nodup_keys_firsts table.keyText (table.accepted given)

theorem isTruthy_of_mem_replace (table : Table) (given : List Value) :
    ∀ record ∈ (table.replace (.list given)).1.records,
      ((table.replace (.list given)).1.key record).isTruthy = true := by
  intro record hm
  rw [key, keyField_replace]
  rw [records_replace] at hm
  exact isTruthy_of_mem_accepted ((firsts_sublist _ _).subset hm)

theorem settled_replace (h : (table.replace (.list given)).2 = .ok report) :
    Settled (table.replace (.list given)).1 := by
  rw [replace_eq] at h ⊢
  obtain ⟨selected, hs, -⟩ := Attempt.map_ok.mp h
  exact settled_reselect hs

theorem Settled.replace_records (hs : Settled table)
    (hd : (table.records.map table.keyText).Nodup)
    (ht : ∀ record ∈ table.records, (table.key record).isTruthy = true) :
    table.replace (.list (table.records.map .object)) =
      (table, .ok ⟨true, table.records.length, [], []⟩) := by
  have hr : table.reselect table.records = (table, .ok table.filtered) := hs
  rw [replace_eq, accepted_objects ht, refused_objects ht, firsts_eq_self hd, repeats_eq_nil hd, hr]
  rfl

/-- A replacement that does not fail stores, of the candidates that are objects
with a key, the first of every key text, reports the candidates that are not,
and the key texts of the candidates that come later. So it accounts for every
candidate, no two records share a key text, and replacing the records by
themselves changes nothing. What is no list is refused. -/
theorem replace_partitions (table : Table) :
    (∀ given report, (table.replace (.list given)).2 = .ok report →
      (table.replace (.list given)).1.records = firsts table.keyText (table.accepted given) ∧
      report.refused = table.refused given ∧
      report.duplicates = (repeats table.keyText (table.accepted given)).map table.keyText ∧
      report.success = true ∧
      report.replaced = (table.replace (.list given)).1.records.length ∧
      report.replaced + report.refused.length + report.duplicates.length = given.length ∧
      ((table.replace (.list given)).1.records.map table.keyText).Nodup ∧
      (table.replace (.list given)).1.replace
          (.list ((table.replace (.list given)).1.records.map .object)) =
        ((table.replace (.list given)).1, .ok ⟨true, report.replaced, [], []⟩)) ∧
    ∀ other : Value, other.isList = false →
      table.replace other = (table, .ok ⟨false, 0, [], []⟩) := by
  refine ⟨fun given report h => ?_, fun other ho => ?_⟩
  · have hr := records_replace table given
    have hd := nodup_keys_replace table given
    have ha := (settled_replace h).replace_records
      (keyText_congr (keyField_replace table given) ▸ hd) (isTruthy_of_mem_replace table given)
    rw [replace_eq] at h
    obtain ⟨_, -, rfl⟩ := Attempt.map_ok.mp h
    have hl := length_firsts_add_length_repeats table.keyText (table.accepted given)
    have hg := length_accepted_add_length_refused table given
    refine ⟨hr, rfl, rfl, rfl, congrArg List.length hr.symm, ?_, hd, ?_⟩
    · rw [List.length_map]
      dsimp only
      omega
    · rw [ha, hr]
  · cases other with
    | list items => cases ho
    | _ => rfl

end

/-- Two keys of one text, no object, no key, and another key. -/
def newcomers : List Value := [
  .object [("id", .int 1), ("name", .text "x")],
  .null,
  .object [("id", .text "1"), ("name", .text "y")],
  .object [("id", .int 0)],
  .object [("id", .text "b"), ("name", .text "x")]]

theorem replace_newcomers :
    ∃ report, (searched.replace (.list newcomers)).2 = .ok report ∧
      (searched.replace (.list newcomers)).1.records =
        [[("id", .int 1), ("name", .text "x")], [("id", .text "b"), ("name", .text "x")]] ∧
      report.refused.length = 2 ∧ report.duplicates = ["1"] := by
  have ho : (searched.replace (.list newcomers)).2.isOk = true := by decide +kernel
  obtain ⟨report, h⟩ := Attempt.isOk_iff.mp ho
  obtain ⟨hr, hf, hd, -⟩ := (replace_partitions searched).1 newcomers report h
  have he : searched.keyField = (new [] .null .default).keyField := by
    rw [searched, apply_keyField]
    rfl
  have ha : searched.accepted newcomers = [[("id", .int 1), ("name", .text "x")],
      [("id", .text "1"), ("name", .text "y")], [("id", .text "b"), ("name", .text "x")]] := by
    rw [accepted, acceptable?_congr he]
    rfl
  have hn : (searched.refused newcomers).length = 2 := by
    rw [refused, acceptable?_congr he]
    rfl
  rw [ha, keyText_congr he] at hr hd
  exact ⟨report, h, hr, by rw [hf, hn], hd⟩

end RecordQuery.Table
