import RecordQuery.Proofs.Json.Readable
import RecordQuery.Proofs.Source.Document

/-!
# Nested values in sources

Every object that a JSON source finds becomes one flat record: what is flat
stays as it is, and what is nested becomes a text that can be read again.
Only for floats inside a nested value that reading is left open.
-/

namespace RecordQuery

namespace Source

-- ---------------------------------------------------------------------------
-- What is kept of a value
-- ---------------------------------------------------------------------------

/-- A text from which a value can be read again, unless floats are in it. -/
def Encodes (kept given : Value) : Prop :=
  ∃ s, kept = .text s ∧ (given.isFloatFree = true → Json.read? s.toList = some given)

structure KeepsItem (given kept : Value) : Prop where
  same : given.isScalar = true → kept = given
  nested : given.isScalar = false → Encodes kept given

structure Keeps (given kept : Value) : Prop where
  flat : kept.isFlat = true
  same : given.isFlat = true → kept = given
  object : ∀ fields, given = .object fields → Encodes kept given
  list : ∀ items, given = .list items →
    ∃ keptItems, kept = .list keptItems ∧ List.Forall₂ KeepsItem items keptItems

def KeepsRecord (given kept : Record) : Prop :=
  List.Forall₂ (fun field new => new.1 = field.1 ∧ Keeps field.2 new.2) given kept

theorem encodes_line {value : Value} (h : value.isReadable = true) :
    Encodes (.text (Json.line value)) value := by
  refine ⟨_, rfl, fun hf => ?_⟩
  rw [Json.line, String.toList_ofList]
  exact Json.read?_write (Value.isStorable_iff.mpr ⟨h, hf⟩)

theorem keepsItem_flatItem {item : Value} (h : item.isReadable = true) :
    KeepsItem item (flatItem item) := by
  refine ⟨flatItem_scalar, fun hn => ?_⟩
  cases item with
  | list items => exact encodes_line h
  | object fields => exact encodes_line h
  | _ => cases hn

theorem isScalar_flatItem (item : Value) : (flatItem item).isScalar = true := by
  cases item <;> rfl

theorem isFlat_flatValue (value : Value) : (flatValue value).isFlat = true := by
  cases value with
  | list items =>
    refine List.all_eq_true.mpr fun item hm => ?_
    obtain ⟨given, -, rfl⟩ := List.mem_map.mp hm
    exact isScalar_flatItem given
  | _ => rfl

theorem keeps_flatValue {value : Value} (h : value.isReadable = true) :
    Keeps value (flatValue value) where
  flat := isFlat_flatValue value
  same := flatValue_flat
  object := by
    rintro fields rfl
    exact encodes_line h
  list := by
    rintro items rfl
    have hi := Value.isReadable_list.mp h
    refine ⟨_, rfl, List.forall₂_map_right_iff.mpr (List.forall₂_same.mpr fun item hm => ?_)⟩
    exact keepsItem_flatItem (hi item hm)

theorem keepsRecord_flatRecord {record : Record}
    (h : (Value.object record).isReadable = true) : KeepsRecord record (flatRecord record) := by
  have hf := (Value.isReadable_object.mp h).2
  refine List.forall₂_map_right_iff.mpr (List.forall₂_same.mpr fun field hm => ?_)
  exact ⟨rfl, keeps_flatValue (hf field hm)⟩

-- ---------------------------------------------------------------------------
-- Where the objects are found
-- ---------------------------------------------------------------------------

/-- A path leads from an object to the value of a field, name by name. -/
inductive Reached : Value → List String → Value → Prop
  | here (value : Value) : Reached value [] value
  | field {fields : Record} {name : String} {next found : Value} {rest : List String}
      (hf : Record.find? fields name = some next) (hr : Reached next rest found) :
      Reached (.object fields) (name :: rest) found

def objectOf? : Value → Option Record
  | .object fields => some fields
  | _ => none

/-- The objects of a list, or a single one; anything else holds none. -/
inductive Objects : Value → List Record → Prop
  | list (items : List Value) : Objects (.list items) (items.filterMap objectOf?)
  | object (fields : Record) : Objects (.object fields) [fields]

theorem valueAt_null (parts : List String) : valueAt .null parts = .null := by
  induction parts with
  | nil => rfl
  | cons part rest ih => exact ih

theorem reached_valueAt {value : Value} {parts : List String} (h : valueAt value parts ≠ .null) :
    Reached value parts (valueAt value parts) := by
  induction parts generalizing value with
  | nil => exact .here value
  | cons part rest ih =>
    rw [valueAt] at h ⊢
    cases value with
    | object fields =>
      cases hf : Record.find? fields part with
      | none =>
        have hn : (Value.object fields).fields.get part = .null := by
          simp [Value.fields, Record.get, hf]
        rw [hn, valueAt_null] at h
        exact absurd rfl h
      | some next =>
        have hn : (Value.object fields).fields.get part = next := by
          simp [Value.fields, Record.get, hf]
        rw [hn] at h ⊢
        exact .field hf (ih h)
    | _ => exact absurd (valueAt_null rest) h

theorem isReadable_reached {value found : Value} {parts : List String}
    (hr : Reached value parts found) (h : value.isReadable = true) : found.isReadable = true := by
  induction hr with
  | here => exact h
  | @field fields name next found rest hf _ ih =>
    obtain ⟨before, after, rfl, -⟩ := List.lookup_eq_some_iff.mp hf
    exact ih ((Value.isReadable_object.mp h).2 (name, next) (by simp))

theorem isReadable_objects {found : Value} {objects : List Record}
    (hr : found.isReadable = true) (ho : Objects found objects) :
    ∀ object ∈ objects, (Value.object object).isReadable = true := by
  intro object hm
  cases ho with
  | list items =>
    obtain ⟨item, hi, he⟩ := List.mem_filterMap.mp hm
    cases item with
    | object fields =>
      cases he
      exact Value.isReadable_list.mp hr _ hi
    | _ => cases he
  | object fields =>
    obtain rfl := List.mem_singleton.mp hm
    exact hr

theorem recordOf?_eq : recordOf? = fun value => (objectOf? value).map flatRecord := by
  funext value
  cases value <;> rfl

theorem objects_of_candidates {found : Value} {candidates : List Value}
    (h : candidates? found = some candidates) :
    ∃ objects, Objects found objects ∧ candidates.filterMap recordOf? = objects.map flatRecord := by
  cases found with
  | list items =>
    cases h
    exact ⟨_, .list _, by rw [recordOf?_eq, List.map_filterMap]⟩
  | object fields =>
    cases h
    exact ⟨_, .object fields, rfl⟩
  | _ => cases h

/-- The records of a loaded source are what is kept of the objects that its
document holds at the path, in their order. -/
theorem load_keeps {files : Files} {path : String} {options : Record} {collection : Collection}
    (h : load files .json path options = .ok (some collection)) :
    ∃ text document found objects, Holds files path options text ∧
      Json.read? text = some document ∧ Reached document (pathOf options) found ∧
      Objects found objects ∧ List.Forall₂ KeepsRecord objects collection.records := by
  obtain ⟨text, hheld, h⟩ := load_json_iff.mp h
  obtain ⟨document, hread, h⟩ := readJson_iff.mp h
  obtain ⟨candidates, hc, h⟩ := Option.bind_eq_some_iff.mp h
  cases h
  have hn : valueAt document (pathOf options) ≠ .null := by
    intro hn
    rw [hn] at hc
    cases hc
  have hreached := reached_valueAt hn
  obtain ⟨objects, ho, he⟩ := objects_of_candidates hc
  have hr := isReadable_objects (isReadable_reached hreached (Json.isReadable_of_read? hread)) ho
  refine ⟨text, document, _, objects, hheld, hread, hreached, ho, ?_⟩
  rw [he]
  exact List.forall₂_map_right_iff.mpr
    (List.forall₂_same.mpr fun object hm => keepsRecord_flatRecord (hr object hm))

/-- An object with nested values, and what is no object, below a path. -/
def nestedDocument : Value := .object [("a", .object [("b", .list [
  .object [("id", .int 1), ("tags", .list [.text "x", .object [("k", .int 2)], .list [.null]]),
    ("nest", .object [("n", .bool false)])],
  .int 3])])]

def nestedFiles : Files :=
  Files.single (String.ofList (Json.write false nestedDocument)).toUTF8

def keptCollection : Collection := ⟨["id", "tags", "nest"], [[("id", .int 1),
  ("tags", .list [.text "x", .text "\x7b\"k\": 2\x7d", .text "[null]"]),
  ("nest", .text "\x7b\"n\": false\x7d")]]⟩

theorem load_keeps_nested :
    load nestedFiles .json "r" [("records_path", .text "a.b")] = .ok (some keptCollection) ∧
    ∃ text document found objects,
      Holds nestedFiles "r" [("records_path", .text "a.b")] text ∧
      Json.read? text = some document ∧
      Reached document (pathOf [("records_path", .text "a.b")]) found ∧
      Objects found objects ∧ List.Forall₂ KeepsRecord objects keptCollection.records := by
  have hp : pathOf [("records_path", .text "a.b")] = ["a", "b"] := by cbv
  have hd : ofDocument? ["a", "b"] nestedDocument = some keptCollection := by
    rfl
  have hload : load nestedFiles .json "r" [("records_path", .text "a.b")] =
      .ok (some keptCollection) :=
    load_json_iff.mpr ⟨_, holds_utf8 (Files.find?_single _) rfl, readJson_iff.mpr
      ⟨nestedDocument, Json.read?_write (by decide +kernel), by rw [hp, hd]⟩⟩
  exact ⟨hload, load_keeps hload⟩

end Source

end RecordQuery
