import RecordQuery.Proofs.Attempt
import RecordQuery.Proofs.Files
import RecordQuery.Proofs.Json.RoundTrip
import RecordQuery.Proofs.Value.Stored
import RecordQuery.Report
import RecordQuery.Source

/-!
# Documents of records

A JSON source is loaded if its file holds a document, in the encoding that
the options name, and the document has a list or an object where the options
look for it. Flat records that were exported are loaded as they were.
-/

namespace RecordQuery

namespace Source

variable {files : Files} {path : String} {options : Record} {text : List Char}
  {collection : Collection}

-- ---------------------------------------------------------------------------
-- Text in files
-- ---------------------------------------------------------------------------

def Holds (files : Files) (path : String) (options : Record) (text : List Char) : Prop :=
  isRefused .json options = false ∧
    ∃ contents encoding, files.find? path = some (.file contents) ∧
      encodingOf (encodingName? .json options) = .ok encoding ∧
      encoding.decode? contents = some text

theorem holds_utf8 (hf : files.find? path = some (.file (String.ofList text).toUTF8))
    (hn : encodingName? .json options = none) : Holds files path options text := by
  refine ⟨?_, _, .utf8, hf, ?_, Encoding.utf8?_ofList text⟩
  · rw [isRefused, hn]
    · rfl
    · intro h _
      cases h
  · rw [hn]
    rfl

theorem load_json_iff : load files .json path options = .ok (some collection) ↔
    ∃ text, Holds files path options text ∧ readJson options text = some collection := by
  constructor
  · intro h
    rw [load] at h
    split at h
    · cases h
    · next node hf =>
      split at h
      · cases h
      · next hr =>
        cases node with
        | folder => cases h
        | file contents =>
          obtain ⟨encoding, he, h⟩ := Attempt.bind_ok.mp h
          obtain ⟨text, ht, hread⟩ := Option.bind_eq_some_iff.mp (Except.ok.inj h)
          exact ⟨text, ⟨Bool.eq_false_iff.mpr hr, contents, encoding, hf, he, ht⟩, hread⟩
  · rintro ⟨text, ⟨hr, contents, encoding, hf, he, ht⟩, hread⟩
    have hb : (encoding.decode? contents).bind (readJson options) = some collection := by
      rw [ht, Option.bind_some, hread]
    rw [load, hf]
    simp only [hr, Bool.false_eq_true, ↓reduceIte]
    exact Attempt.bind_ok.mpr ⟨encoding, he, congrArg Except.ok hb⟩

/-- With an encoding that is known, loading JSON never fails by itself. -/
theorem load_json_total {encoding : Encoding}
    (h : encodingOf (encodingName? .json options) = .ok encoding) :
    ∃ found, load files .json path options = .ok found := by
  rw [load]
  split
  · exact ⟨_, rfl⟩
  · next node _ =>
    split
    · exact ⟨_, rfl⟩
    · cases node with
      | folder => exact ⟨_, rfl⟩
      | file contents =>
        refine ⟨(encoding.decode? contents).bind (readJson options), ?_⟩
        rw [loadJson, h]
        rfl

theorem exists_problem {kindName : Option String} {settings : Settings} {failure : Failure}
    (hl : ∀ kind, kindOf files path kindName = .ok kind →
      ∃ found, load files kind path (settings.providers.get kind.name).fields = .ok found)
    (h : loadWith files path kindName settings = .error failure) :
    ∃ problem, failure = .source problem := by
  rw [loadWith] at h
  split at h
  · next problem _ =>
    cases h
    exact ⟨problem, rfl⟩
  · next kind hk =>
    obtain ⟨found, hf⟩ := hl kind hk
    rw [hf] at h
    cases found with
    | none =>
      cases h
      exact ⟨_, rfl⟩
    | some collection => cases h

theorem readJson_iff : readJson options text = some collection ↔
    ∃ document, Json.read? text = some document ∧
      ofDocument? (pathOf options) document = some collection := by
  rw [readJson]
  exact Option.bind_eq_some_iff

-- ---------------------------------------------------------------------------
-- Flat records
-- ---------------------------------------------------------------------------

theorem flatItem_scalar {value : Value} (h : value.isScalar = true) : flatItem value = value := by
  cases value with
  | list items => cases h
  | object fields => cases h
  | _ => rfl

theorem flatValue_flat {value : Value} (h : value.isFlat = true) : flatValue value = value := by
  cases value with
  | list items =>
    have hi : items.map flatItem = items :=
      (List.map_congr_left fun item hm => flatItem_scalar (List.all_eq_true.mp h item hm)).trans
        (List.map_id' items)
    rw [flatValue, hi]
  | object fields => cases h
  | _ => rfl

theorem flatRecord_flat {record : Record} (h : record.isFlat = true) :
    flatRecord record = record := by
  have hf := List.all_eq_true.mp h
  refine (List.map_congr_left fun field hm => ?_).trans (List.map_id' record)
  rw [flatValue_flat (hf field hm)]

theorem filterMap_recordOf? {records : List Record}
    (h : ∀ record ∈ records, record.isFlat = true) :
    (records.map Value.object).filterMap recordOf? = records := by
  rw [List.filterMap_map]
  refine (List.filterMap_congr fun record hm => ?_).trans List.filterMap_some
  exact congrArg some (flatRecord_flat (h record hm))

/-- Flat records that were written as JSON, pretty or not, are loaded as they
were. -/
theorem load_exported {records : List Record} {pretty : Bool}
    (hr : ∀ record ∈ records, record.isFlat = true ∧ (Value.object record).isStorable = true)
    (hp : pathOf options = [])
    (hf : Holds files path options (Report.json pretty (records.map Value.object))) :
    load files .json path options =
      .ok (some ⟨(records.flatMap Record.fields).eraseDups, records⟩) := by
  have hs : (Value.list (records.map Value.object)).isStorable = true := by
    refine Value.isStorable_list.mpr fun value hm => ?_
    obtain ⟨record, hrecord, rfl⟩ := List.mem_map.mp hm
    exact (hr record hrecord).2
  have hd : ofDocument? [] (.list (records.map Value.object)) =
      some ⟨(records.flatMap Record.fields).eraseDups, records⟩ := by
    have hc : (records.map Value.object).filterMap recordOf? = records :=
      filterMap_recordOf? fun record hm => (hr record hm).1
    simp only [ofDocument?, valueAt, candidates?, Option.bind_eq_bind, Option.bind_some, hc]
  refine load_json_iff.mpr ⟨_, hf, readJson_iff.mpr ⟨_, Json.read?_write hs, ?_⟩⟩
  rw [hp, hd]

def twoRecords : List Record := [
  [("id", .int 1), ("say \"hi\"", .text "é\n\\\t\x01😀"), ("tags", .list [.text "[1]", .null])],
  [("tags", .list []), ("n", .int (-120)), ("on", .bool true)]]

def twoFiles : Files :=
  Files.single (String.ofList (Report.json true (twoRecords.map Value.object))).toUTF8

theorem load_twoRecords : load twoFiles .json "r" [] =
    .ok (some ⟨["id", "say \"hi\"", "tags", "n", "on"], twoRecords⟩) := by
  have hr : ∀ record ∈ twoRecords,
      record.isFlat = true ∧ (Value.object record).isStorable = true := by
    have h : (twoRecords.all fun record => record.isFlat && (Value.object record).isStorable) :=
      by decide +kernel
    exact fun record hm => Bool.and_eq_true_iff.mp (List.all_eq_true.mp h record hm)
  exact load_exported hr rfl (holds_utf8 (Files.find?_single _) rfl)

end Source

end RecordQuery
