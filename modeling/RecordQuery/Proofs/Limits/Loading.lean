import RecordQuery.Limits.Loading
import RecordQuery.Proofs.Limits
import RecordQuery.Proofs.Source.Nesting

/-!
# Loading within limits

A source that meets no limit is loaded as it is without limits. Where one is
met, nothing but the end of the stack is told. The records of a loaded document
are flat, and so can be searched in wherever there is room for one list.
-/

namespace RecordQuery

-- ---------------------------------------------------------------------------
-- Flat values
-- ---------------------------------------------------------------------------

namespace Value

theorem depth_scalar {value : Value} (h : value.isScalar = true) : value.depth = 0 := by
  cases value with
  | list items => cases h
  | object fields => cases h
  | _ => rfl

theorem depth_flat_le {value : Value} (h : value.isFlat = true) : value.depth ≤ 1 := by
  rcases isFlat_cases h with hs | ⟨items, rfl, hi⟩
  · rw [depth_scalar hs]
    exact Nat.zero_le _
  · refine Nat.succ_le_succ (depthOfItems_le_iff.mpr fun item hm => ?_)
    rw [depth_scalar (List.all_eq_true.mp hi item hm)]

end Value

-- ---------------------------------------------------------------------------
-- Sources
-- ---------------------------------------------------------------------------

namespace Limits

variable {limits : Limits} {files : Files} {kind : SourceKind} {path : String} {options : Record}
  {failure : Failure}

theorem checkDocument_error {text : List Char} (h : limits.checkDocument text = .error failure) :
    ∃ descent, failure = .stackEnded descent := by
  rw [checkDocument] at h
  split at h
  · cases h
    exact ⟨_, rfl⟩
  · cases h

theorem checkNested_error {value : Value} (h : limits.checkNested value = .error failure) :
    failure = .stackEnded .encoding := by
  rcases Attempt.bind_error.mp h with hf | ⟨_, -, hr⟩
  · obtain ⟨part, -, hp⟩ := Attempt.error_of_mapM hf
    exact (part.follow_error _ _ hp).resolve_right nofun
  · cases hr

theorem checkSource_error (h : limits.checkSource files kind path options = .error failure) :
    (∃ text, Source.jsonText? files path options = some text) ∧
      ∃ descent, failure = .stackEnded descent := by
  unfold checkSource at h
  split at h
  · next text ht =>
    refine ⟨⟨text, ht⟩, ?_⟩
    rcases Attempt.bind_error.mp h with hd | ⟨_, -, hr⟩
    · exact checkDocument_error hd
    · rcases Attempt.bind_error.mp hr with hf | ⟨_, -, hr⟩
      · obtain ⟨field, -, hn⟩ := Attempt.error_of_mapM hf
        exact ⟨_, checkNested_error hn⟩
      · cases hr
  · cases h

theorem checkSource_near : Near True (limits.checkSource files kind path options) (.ok ()) := by
  cases h : limits.checkSource files kind path options with
  | ok => exact .refl _
  | error failure =>
    obtain ⟨-, descent, rfl⟩ := checkSource_error h
    exact .error (fun hn => hn trivial) rfl

/-- A source is loaded as without limits, or the stack ends. -/
theorem load_near :
    Near True (limits.load files kind path options) (Source.load files kind path options) :=
  checkSource_near.next (.refl _)

theorem loadSettings_near (path : Option String) :
    Near True (limits.loadSettings files path) (Settings.load files path) := by
  have hc : Near True (limits.checkDocument ((Settings.storedText? files path).getD []))
      (.ok ()) := by
    cases h : limits.checkDocument ((Settings.storedText? files path).getD []) with
    | ok => exact .refl _
    | error failure =>
      obtain ⟨descent, rfl⟩ := checkDocument_error h
      exact .error (fun hn => hn trivial) rfl
  exact hc.next (.refl _)

theorem isPresent_of_jsonText? {text : List Char}
    (h : Source.jsonText? files path options = some text) : files.isPresent path = true := by
  rw [Source.jsonText?] at h
  rw [Files.isPresent]
  split at h
  · next contents hf => rw [hf]; rfl
  · cases h

section
variable {kindName : Option String} {settings : Settings}

/-- A source that cannot be loaded within limits meets one of them, or cannot
be loaded at all. -/
theorem loadWith_error (h : limits.loadWith files path kindName settings = .error failure) :
    (files.isPresent path = true ∧ ∃ descent, failure = .stackEnded descent) ∨
      Source.loadWith files path kindName settings = .error failure := by
  rw [loadWith] at h
  cases hk : Source.kindOf files path kindName with
  | error problem =>
    rw [hk] at h
    cases h
    exact .inr (by rw [Source.loadWith, hk])
  | ok kind =>
    rw [hk] at h
    rcases Attempt.bind_error.mp h with hc | ⟨_, -, hl⟩
    · obtain ⟨⟨text, ht⟩, hd⟩ := checkSource_error hc
      exact .inl ⟨isPresent_of_jsonText? ht, hd⟩
    · exact .inr hl

theorem loadWith_ok {loaded : SourceKind × Collection}
    (h : limits.loadWith files path kindName settings = .ok loaded) :
    Source.loadWith files path kindName settings = .ok loaded := by
  rw [loadWith] at h
  split at h
  · cases h
  · exact (Attempt.then_ok.mp h).2

end

end Limits

namespace Source

/-- The records of a loaded document are flat. -/
theorem isFlat_of_load {files : Files} {path : String} {options : Record} {collection : Collection}
    (h : load files .json path options = .ok (some collection)) :
    ∀ record ∈ collection.records, ∀ field ∈ record, field.2.isFlat = true := by
  obtain ⟨text, -, h⟩ := load_json_iff.mp h
  obtain ⟨document, -, h⟩ := readJson_iff.mp h
  obtain ⟨candidates, -, h⟩ := Option.bind_eq_some_iff.mp h
  cases h
  intro record hr field hf
  obtain ⟨candidate, -, ho⟩ := List.mem_filterMap.mp hr
  rw [recordOf?_eq] at ho
  obtain ⟨fields, -, rfl⟩ := Option.map_eq_some_iff.mp ho
  obtain ⟨given, -, rfl⟩ := List.mem_map.mp hf
  exact isFlat_flatValue given.2

theorem load_of_loadWith {files : Files} {path : String} {kindName : Option String}
    {settings : Settings} {kind : SourceKind} {collection : Collection}
    (h : loadWith files path kindName settings = .ok (kind, collection)) :
    load files kind path (settings.providers.get kind.name).fields = .ok (some collection) := by
  rw [loadWith] at h
  split at h
  · cases h
  · obtain ⟨found, hl, h⟩ := Attempt.bind_ok.mp h
    cases found with
    | none => cases h
    | some other =>
      cases h
      exact hl

end Source

end RecordQuery
