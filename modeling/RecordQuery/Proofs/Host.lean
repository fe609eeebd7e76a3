import RecordQuery.Host
import RecordQuery.Proofs.Table.Session

/-!
# Steps on a host

The query of a table is applied only once its length has been compared and its
answer found. Both may fail, and so may the search for the records that have
the keys of the answer. Every other step ends by applying the query or does not
ask it at all.
-/

namespace RecordQuery

/-- The table with another current query, which is not asked. -/
def Table.asking (table : Table) (query : Option String) : Table := { table with query := query }

theorem Query.overruns_int (length : Nat) (limit : Int) :
    overruns length (.int limit) = .ok (decide (limit < length)) := by
  rw [← Table.exceeds_int]
  rfl

namespace Host

open Attempt (map_error)
open Table (Answer Step)

variable (host : Host)

def perform (table : Table) : Step → Table × Except Failure Answer
  | .apply query => (host.apply table query).map id (Except.map .selected)
  | .filter query => (table, (host.filter table query).map .keys)
  | .add given => (host.add table given).map id (Except.map .stored)
  | .remove key => (host.remove table key).map id (Except.map .removed)
  | .append given => (host.append table given).map id (Except.map .appended)
  | .replace given => (host.replace table given).map id (Except.map .replaced)
  | .get key => (table, (host.get? table key).map .found)
  | .size => (table, .ok (.count table.records.length))

def trace (table : Table) : List Step → List (Table × Except Failure Answer)
  | [] => []
  | step :: rest => host.perform table step :: trace (host.perform table step).1 rest

-- ---------------------------------------------------------------------------
-- Asking
-- ---------------------------------------------------------------------------

section
variable {table : Table} {query : String}

theorem filter_long (h : Query.overruns query.length table.limit = .ok true)
    (hp : ∃ text, host.print table.limit = .ok text) :
    host.filter table (some query) = .error (.rejected (.tooLong table.limit) (some query)) := by
  obtain ⟨text, hp⟩ := hp
  simp only [filter, validate, h, hp, bind, Except.bind, if_pos]

theorem filter_short (h : Query.overruns query.length table.limit = .ok false) :
    host.filter table (some query) =
      host.answer table.engine.records table.keyName query := by
  simp only [filter, validate, h, bind, Except.bind, Bool.false_eq_true, if_false]

theorem found_error {failure : Failure} (h : host.filter table (some query) = .error failure) :
    host.found table (some query) = .error failure := by
  rw [found, h]
  rfl

end

-- ---------------------------------------------------------------------------
-- Applying a query
-- ---------------------------------------------------------------------------

section
variable {table : Table} {query : String} {failure : Failure}

theorem apply_blank (table : Table) (hb : Text.isBlankText query.toList = true) :
    host.apply table (some query) = (table.asking (some query)).select table.records := by
  unfold apply
  dsimp only
  rw [if_pos hb]
  rfl

theorem apply_found {texts : List String} {selected : List Record}
    (hb : Text.isBlankText query.toList = false) (hf : host.found table (some query) = .ok texts)
    (hs : host.having table texts = .ok selected) :
    host.apply table (some query) = (table.asking (some query)).select selected := by
  have hf : host.found (table.asking (some query)) (some query) = .ok texts := hf
  have hs : host.having (table.asking (some query)) texts = .ok selected := hs
  unfold apply
  dsimp only [Table.asking] at hf hs ⊢
  rw [hb, if_neg Bool.false_ne_true, hf]
  dsimp only
  rw [hs]

theorem apply_lost {texts : List String} (hb : Text.isBlankText query.toList = false)
    (hf : host.found table (some query) = .ok texts)
    (hs : host.having table texts = .error failure) :
    host.apply table (some query) = (table.asking (some query), .error failure) := by
  have hf : host.found (table.asking (some query)) (some query) = .ok texts := hf
  have hs : host.having (table.asking (some query)) texts = .error failure := hs
  unfold apply
  dsimp only [Table.asking] at hf hs ⊢
  rw [hb, if_neg Bool.false_ne_true, hf]
  dsimp only
  rw [hs]

theorem apply_failed (hb : Text.isBlankText query.toList = false)
    (hf : host.found table (some query) = .error failure) :
    host.apply table (some query) =
      if Table.isCaught failure && table.fallsBack then
        (table.asking (some query)).select table.records
      else (table.asking (some query), .error failure) := by
  have hf : host.found (table.asking (some query)) (some query) = .error failure := hf
  unfold apply
  dsimp only [Table.asking] at hf ⊢
  rw [hb, if_neg Bool.false_ne_true, hf]
  rfl

end

/-- Applying a query makes it current, and selects records unless it fails. -/
theorem apply_cases (table : Table) (query : Option String) :
    (∃ selected, host.apply table query = (table.asking query).select selected) ∨
    ∃ failure, host.apply table query = (table.asking query, .error failure) := by
  cases query with
  | none => exact .inr ⟨_, rfl⟩
  | some text =>
    cases hb : Text.isBlankText text.toList with
    | true => exact .inl ⟨_, host.apply_blank table hb⟩
    | false =>
      cases hf : host.found table (some text) with
      | ok texts =>
        cases hs : host.having table texts with
        | ok selected => exact .inl ⟨_, host.apply_found hb hf hs⟩
        | error failure => exact .inr ⟨_, host.apply_lost hb hf hs⟩
      | error failure =>
        rw [host.apply_failed hb hf]
        split
        · exact .inl ⟨_, rfl⟩
        · exact .inr ⟨_, rfl⟩

theorem apply_error {table : Table} {query : Option String} {failure : Failure}
    (h : (host.apply table query).2 = .error failure) :
    (host.apply table query).1 = table.asking query := by
  rcases host.apply_cases table query with ⟨selected, he⟩ | ⟨other, he⟩
  · rw [he] at h
    cases h
  · rw [he]

section
variable {α β : Type} (table : Table) (records : List Record) (result : α)

theorem reselect_error {failure : Failure}
    (h : (host.reselect table records result).2 = .error failure) :
    (host.reselect table records result).1 = table.holding records :=
  host.apply_error (map_error.mp h)

theorem reselect_blank :
    host.reselect (table.asking (some "")) records result =
      ({ table.holding records with query := some "", filtered := records }, .ok result) := rfl

theorem map_reselect (f : α → β) :
    (host.reselect table records result).map id (Except.map f) =
      host.reselect table records (f result) := by
  unfold reselect
  obtain ⟨synced, selected⟩ := host.apply (table.holding records) table.query
  cases selected <;> rfl

end

-- ---------------------------------------------------------------------------
-- Tables in use
-- ---------------------------------------------------------------------------

/-- The engine of a table has its records and its key field. -/
structure Shared (table : Table) : Prop where
  records : table.engine.records = table.records
  keyField : table.engine.keyField = table.keyField

section
variable {host} {table : Table} (h : Shared table)
include h

theorem Shared.holding (records : List Record) : Shared (table.holding records) := ⟨rfl, h.keyField⟩

theorem Shared.holding_self : table.holding table.records = table := by
  have he : { table.engine with records := table.records } = table.engine := by rw [← h.records]
  rw [Table.holding, he]

theorem Shared.apply (query : Option String) : Shared (host.apply table query).1 := by
  rcases host.apply_cases table query with ⟨selected, he⟩ | ⟨failure, he⟩
  · rw [he]
    exact ⟨h.records, h.keyField⟩
  · rw [he]
    exact ⟨h.records, h.keyField⟩

end

end Host

end RecordQuery
