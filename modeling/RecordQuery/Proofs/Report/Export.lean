import RecordQuery.Proofs.Csv.Grammar
import RecordQuery.Proofs.Limits
import RecordQuery.Proofs.Occurrence

/-!
# Exported rows

An exported table has a column for every field that some record holds: the
key field first if there is one, the others in the order of their first
appearance. It is read back as a row of names and one row for each record,
with a cell in every column. Records that hold no field at all have no table
that could be read, and there is none if a value has no text to be exported.
-/

namespace RecordQuery.Report

open Occurrence (firsts mem_keys_firsts nodup_keys_firsts eraseDupsBy_eq_firsts)

variable {records : List Record} {name : String}

-- ---------------------------------------------------------------------------
-- Columns
-- ---------------------------------------------------------------------------

def seen (records : List Record) : List String := firsts id (records.flatMap Record.fields)

theorem nodup_seen (records : List Record) : (seen records).Nodup := by
  have h := nodup_keys_firsts id (records.flatMap Record.fields)
  rwa [List.map_id] at h

theorem mem_seen : name ∈ seen records ↔ name ∈ records.flatMap Record.fields := by
  have h : name ∈ (seen records).map id ↔ name ∈ (records.flatMap Record.fields).map id :=
    mem_keys_firsts
  rwa [List.map_id, List.map_id] at h

theorem eraseDups_eq_seen (records : List Record) :
    (records.flatMap Record.fields).eraseDups = seen records :=
  eraseDupsBy_eq_firsts (fun _ _ => beq_iff_eq) _

theorem columns_eq (keyField : Option String) (records : List Record) :
    columns keyField records =
      keyField.toList.filter (fun field => decide (field ∈ records.flatMap Record.fields)) ++
        (seen records).filter (fun name => decide (keyField ≠ some name)) := by
  simp only [← mem_seen]
  cases keyField with
  | none => simp [columns, eraseDups_eq_seen]
  | some field =>
    have ho : (fun name => decide (some field ≠ some name)) = (· != field) := by
      funext name
      rw [Bool.eq_iff_iff, decide_eq_true_iff, bne_iff_ne, ne_eq, Option.some.injEq, eq_comm]
    rw [ho]
    by_cases h : field ∈ seen records
    · simp [columns, eraseDups_eq_seen, h, (nodup_seen records).erase_eq_filter]
    · have hs : (seen records).filter (· != field) = seen records :=
        List.filter_eq_self.mpr fun name hn => bne_iff_ne.mpr fun he => h (he ▸ hn)
      simp [columns, eraseDups_eq_seen, h, hs]

theorem mem_columns (keyField : Option String) :
    name ∈ columns keyField records ↔ ∃ record ∈ records, name ∈ record.fields := by
  rw [← List.mem_flatMap, columns_eq, List.mem_append, List.mem_filter, List.mem_filter, mem_seen]
  by_cases h : keyField = some name <;> simp [h]

theorem nodup_columns (keyField : Option String) (records : List Record) :
    (columns keyField records).Nodup := by
  rw [columns_eq, List.nodup_append]
  refine ⟨List.Nodup.filter _ (by cases keyField <;> simp), (nodup_seen records).filter _, ?_⟩
  rintro field hf name hn rfl
  simp_all

-- ---------------------------------------------------------------------------
-- Cells
-- ---------------------------------------------------------------------------

/-- What a cell holds for the value of a field, if the record has the field. -/
inductive Cell (delimiter : List Char) : Option Value → List Char → Prop
  | missing : Cell delimiter none []
  | null : Cell delimiter (some .null) []
  | list : Cell delimiter (some (.list items)) (delimiter.intercalate (items.map itemText))
  | object : Cell delimiter (some (.object fields)) (Json.write false (.object fields))
  | shown : value.isScalar = true → value.kind ≠ .null →
    Cell delimiter (some value) value.shownText

theorem cell_iff {delimiter cell : List Char} {value : Option Value} :
    Cell delimiter value cell ↔ cellText delimiter (value.getD .null) = cell := by
  constructor
  · rintro (_ | _ | _ | _ | @⟨value, hs, hn⟩)
    iterate 4 rfl
    cases value with
    | null => exact absurd rfl hn
    | list items => cases hs
    | object fields => cases hs
    | _ => rfl
  · rintro rfl
    cases value with
    | none => exact .missing
    | some value =>
      cases value with
      | null => exact .null
      | list items => exact .list
      | object fields => exact .object
      | _ => exact .shown rfl nofun

-- ---------------------------------------------------------------------------
-- Tables
-- ---------------------------------------------------------------------------

theorem csv_eq (keyField : Option String) (delimiter : String) (h : records ≠ []) :
    csv keyField delimiter records =
      Csv.writeRows ((columns keyField records).map String.toList ::
        records.map fun record => (columns keyField records).map fun name =>
          cellText delimiter.toList (record.get name)) := by
  cases records with
  | nil => exact absurd rfl h
  | cons record rest => rfl

theorem forall₂_map_eq {α β : Type} {f : α → β} {items : List α} {images : List β} :
    List.Forall₂ (fun item image => f item = image) items images ↔ items.map f = images := by
  rw [← List.forall₂_map_left_iff (R := Eq), List.forall₂_eq_eq_eq]

theorem columns_ne_nil (keyField : Option String) (h : ∃ record ∈ records, record ≠ []) :
    columns keyField records ≠ [] := by
  obtain ⟨record, hr, hn⟩ := h
  obtain ⟨⟨name, value⟩, rest, rfl⟩ := List.exists_cons_of_ne_nil hn
  exact List.ne_nil_of_mem ((mem_columns keyField).mpr ⟨_, hr, List.mem_cons_self⟩)

theorem tableText_csv_iff (keyField : Option String) (delimiter : String)
    (h : ∃ record ∈ records, record ≠ []) (rows : List (List (List Char))) :
    Csv.TableText (csv keyField delimiter records) rows ↔
      ∃ body, rows = (columns keyField records).map String.toList :: body ∧
        List.Forall₂ (fun record row =>
          List.Forall₂ (fun name cell => Cell delimiter.toList (record.find? name) cell)
            (columns keyField records) row) records body := by
  have hr : records ≠ [] := by
    obtain ⟨record, hm, -⟩ := h
    exact List.ne_nil_of_mem hm
  have hn := columns_ne_nil keyField h
  rw [csv_eq keyField delimiter hr, Csv.tableText_writeRows_iff]
  · simp only [cell_iff, forall₂_map_eq]
    constructor
    · intro he
      exact ⟨_, he, rfl⟩
    · rintro ⟨body, rfl, rfl⟩
      rfl
  · simp [hn]

end RecordQuery.Report

-- ---------------------------------------------------------------------------
-- Room
-- ---------------------------------------------------------------------------

namespace RecordQuery.Limits

open Occurrence (firsts)
open Report (Cell columns)

variable {limits : Limits} {records : List Record}

/-- A value that has a text to be exported. -/
def Exports (limits : Limits) : Value → Prop
  | .list items => ∀ item ∈ items, limits.Prints item
  | .object fields => limits.Writes (.object fields)
  | value => limits.Prints value

theorem shownText_ok_iff {value : Value} {text : List Char} :
    (do .ok (← limits.print value).toList) = (.ok text : Except Failure (List Char)) ↔
      limits.Prints value ∧ value.shownText = text := by
  simp only [Attempt.bind_ok, print_iff, Except.ok.injEq, and_assoc, exists_and_left,
    exists_eq_left']
  rw [Value.shown, String.toList_ofList]

theorem itemText_ok_iff (item : Value) (text : List Char) :
    limits.itemText item = .ok text ↔ limits.Prints item ∧ Report.itemText item = text := by
  cases item with
  | null => simp [itemText, Report.itemText, prints_null]
  | _ => exact shownText_ok_iff

theorem cellText_ok_iff {delimiter : List Char} (value : Value) (text : List Char) :
    limits.cellText delimiter value = .ok text ↔
      limits.Exports value ∧ Report.cellText delimiter value = text := by
  cases value with
  | null => simp [cellText, Report.cellText, Exports, prints_null]
  | list items =>
    simp only [cellText, Attempt.bind_ok, Attempt.mapM_ok_iff itemText_ok_iff, Except.ok.injEq,
      and_assoc, exists_and_left, exists_eq_left', Exports, Report.cellText]
  | object fields => exact write_iff
  | _ => exact shownText_ok_iff

theorem exports_columns_iff (keyField : Option String) :
    (∀ record ∈ records, ∀ name ∈ columns keyField records, limits.Exports (record.get name)) ↔
      ∀ record ∈ records, ∀ name, limits.Exports (record.get name) := by
  refine forall₂_congr fun record hr => ⟨fun h name => ?_, fun h name _ => h name⟩
  by_cases hm : name ∈ record.fields
  · exact h name ((Report.mem_columns keyField).mpr ⟨record, hr, hm⟩)
  · rw [Record.get_of_not_mem hm]
    exact prints_null

theorem csv_ok_iff {keyField : Option String} {delimiter : String} {text : List Char} :
    limits.csv keyField delimiter records = .ok text ↔
      (∀ record ∈ records, ∀ name, limits.Exports (record.get name)) ∧
        Report.csv keyField delimiter records = text := by
  rw [← exports_columns_iff keyField]
  cases records with
  | nil => simp [csv, Report.csv]
  | cons first rest =>
    have hrows (record : Record) (row : List (List Char)) :
        (columns keyField (first :: rest)).mapM (fun name =>
            limits.cellText delimiter.toList (record.get name)) = .ok row ↔
          (∀ name ∈ columns keyField (first :: rest), limits.Exports (record.get name)) ∧
            (columns keyField (first :: rest)).map (fun name =>
              Report.cellText delimiter.toList (record.get name)) = row :=
      Attempt.mapM_ok_iff fun name cell => cellText_ok_iff (record.get name) cell
    simp only [csv, Report.csv, Attempt.bind_ok, Attempt.mapM_ok_iff hrows, Except.ok.injEq,
      and_assoc, exists_and_left, exists_eq_left']

/-- Records are exported if and only if each of their values has a text. Those
that hold some field are exported as one table then, whatever their texts hold:
a row of distinct names, those of all fields, with the key field in front; then
a row for each record, in order, with the cell of each of its values below the
name. -/
theorem csv_decodes (limits : Limits) (keyField : Option String) (delimiter : String)
    (h : ∃ record ∈ records, record ≠ []) :
    ((∃ text, limits.csv keyField delimiter records = .ok text) ↔
      ∀ record ∈ records, ∀ name, limits.Exports (record.get name)) ∧
    (columns keyField records).Nodup ∧
    (∀ name, name ∈ columns keyField records ↔ ∃ record ∈ records, name ∈ record.fields) ∧
    columns keyField records =
      keyField.toList.filter (fun field => decide (field ∈ records.flatMap Record.fields)) ++
        (firsts id (records.flatMap Record.fields)).filter
          (fun name => decide (keyField ≠ some name)) ∧
    ∀ text, limits.csv keyField delimiter records = .ok text → ∀ rows, Csv.TableText text rows ↔
      ∃ body, rows = (columns keyField records).map String.toList :: body ∧
        List.Forall₂ (fun record row =>
          List.Forall₂ (fun name cell => Cell delimiter.toList (record.find? name) cell)
            (columns keyField records) row) records body := by
  refine ⟨by simp only [csv_ok_iff, exists_and_left, exists_eq', and_true],
    Report.nodup_columns keyField records, fun _ => Report.mem_columns keyField,
    Report.columns_eq keyField records, fun text ht rows => ?_⟩
  obtain ⟨-, rfl⟩ := csv_ok_iff.mp ht
  exact Report.tableText_csv_iff keyField delimiter h rows

/-- Names and texts with commas, quotes and line ends, and records that share
only some fields. -/
def ragged : List Record :=
  [[("a,b", .text "\"x\"\r\n"), ("id", .int 1)],
   [("id", .null), ("tags", .list [.text "p", .null])]]

/-- Each cell of the table stands below its name, in quotes or not. -/
theorem csv_ragged :
    (∃ record ∈ ragged, record ≠ []) ∧
      ∃ text, standard.csv (some "id") "|" ragged = .ok text ∧
        Csv.TableText text
          [["id".toList, "a,b".toList, "tags".toList],
           ["1".toList, "\"x\"\r\n".toList, []],
           [[], [], "p|".toList]] := by
  have h : ∃ record ∈ ragged, record ≠ [] := ⟨_, List.mem_cons_self, List.cons_ne_nil _ _⟩
  obtain ⟨-, -, -, -, hr⟩ := csv_decodes standard (some "id") "|" h
  have hn : columns (some "id") ragged = ["id", "a,b", "tags"] := by decide +kernel
  obtain ⟨text, ht⟩ : ∃ text, standard.csv (some "id") "|" ragged = .ok text := ⟨_, rfl⟩
  refine ⟨h, text, ht, (hr _ ht _).mpr ⟨_, by rw [hn]; rfl, ?_⟩⟩
  rw [hn]
  exact .cons (.cons (.shown rfl nofun) (.cons (.shown rfl nofun) (.cons .missing .nil)))
    (.cons (.cons .null (.cons .missing (.cons .list .nil))) .nil)

def overlong : Int := (Nat.pow 10 Numeral.maxDigits : Nat)

theorem csv_overlong :
    ¬ ∀ (records : List Record) (keyField : Option String) (delimiter : String),
      (∃ record ∈ records, record ≠ []) →
        ∃ text, standard.csv keyField delimiter records = .ok text := by
  intro h
  have hr : ∃ record ∈ [[("id", Value.int 1), ("n", .int overlong)]], record ≠ [] :=
    ⟨_, List.mem_cons_self, List.cons_ne_nil _ _⟩
  obtain ⟨text, ht⟩ := h _ none "|" hr
  have hp : standard.Prints (.int overlong) := (csv_ok_iff.mp ht).1 _ List.mem_cons_self "n"
  have hs : Value.isOverlong overlong = true := by
    rw [Value.isOverlong_iff, overlong, Int.natAbs_natCast]
  rw [prints_int_iff.mp hp] at hs
  cases hs

end RecordQuery.Limits
