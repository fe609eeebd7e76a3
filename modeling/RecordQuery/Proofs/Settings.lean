import RecordQuery.Proofs.Files
import RecordQuery.Proofs.Json.RoundTrip
import RecordQuery.Settings.Loading

/-!
# Saved settings

Merged settings that are laid over the defaults again do not change, whatever
types of sources and keys are in them. So settings that could be saved are
read as they were.
-/

namespace RecordQuery

namespace Settings

variable {base given merged : Record}

-- ---------------------------------------------------------------------------
-- Merging again
-- ---------------------------------------------------------------------------

def extend (old new : Value) : Value := .object (Record.update old.fields new.fields)

theorem mergeProviders_eq_overlay (base given : Record) :
    mergeProviders base given = Record.overlay extend base given := rfl

/-- Whatever type is asked for, its settings start with the keys that they
had, and no key is there twice. -/
def Extends (base merged : Record) : Prop :=
  ∀ type, (base.get type).fields.fields <+: (merged.get type).fields.fields ∧
    (merged.get type).fields.fields.Nodup

theorem Extends.mergeProvider (h : Extends base merged) (type : String) (given : Value) :
    Extends base (mergeProvider merged type given) := by
  intro other
  rw [Settings.mergeProvider, Record.get_set]
  split
  · next he =>
    subst he
    exact ⟨(h _).1.trans Record.prefix_update, Record.nodup_update (h _).2⟩
  · exact h other

theorem extends_mergeProviders (h : Extends base base) :
    Extends base (mergeProviders base given) :=
  given.foldlRecOn (motive := fun merged : Record => Extends base merged) _ h
    fun _ hm _ _ => hm.mergeProvider _ _

theorem mergeProviders_merged (hb : Extends base base) (hn : base.fields.Nodup)
    (ho : ∀ entry ∈ base, ∃ fields, entry.2 = .object fields) :
    mergeProviders base (mergeProviders base given) = mergeProviders base given := by
  have hx : Extends base (mergeProviders base given) := extends_mergeProviders hb
  simp only [mergeProviders_eq_overlay] at hx ⊢
  have hnodup : (Record.overlay extend base given).fields.Nodup := Record.nodup_overlay hn
  have hobject : ∀ entry ∈ Record.overlay extend base given, ∃ fields, entry.2 = .object fields :=
    Record.forall_overlay (p := fun value => ∃ fields, value = .object fields) ho
      fun _ _ _ _ => ⟨_, rfl⟩
  refine Record.overlay_eq_self Record.prefix_overlay hnodup ?_
  rintro ⟨type, value⟩ hm
  obtain ⟨fields, rfl⟩ := hobject _ hm
  obtain ⟨hstart, hkeys⟩ := hx type
  rw [Record.get_of_mem hnodup hm] at hstart hkeys
  exact congrArg Value.object (Record.update_eq_self hstart hkeys)

theorem nodup_defaultEngine : (Record.fields defaultEngine).Nodup := isDistinct_iff.mp rfl

theorem nodup_defaultOutput : (Record.fields defaultOutput).Nodup := isDistinct_iff.mp rfl

theorem nodup_defaultProviders : (Record.fields defaultProviders).Nodup := isDistinct_iff.mp rfl

theorem extends_defaultProviders : Extends defaultProviders defaultProviders := by
  have hd : ∀ entry ∈ defaultProviders, entry.2.fields.fields.Nodup := by
    intro entry hm
    have h : (defaultProviders.all fun entry => isDistinct entry.2.fields.fields) = true := rfl
    exact isDistinct_iff.mp (List.all_eq_true.mp h entry hm)
  exact fun type => ⟨List.prefix_refl _,
    Record.forall_get (p := fun value => value.fields.fields.Nodup) hd List.nodup_nil type⟩

theorem object_defaultProviders :
    ∀ entry ∈ defaultProviders, ∃ fields, entry.2 = .object fields :=
  List.forall_mem_cons.mpr ⟨⟨_, rfl⟩, List.forall_mem_singleton.mpr ⟨_, rfl⟩⟩

theorem ofFields_toValue (engine output providers debug : Value) :
    ofFields (new engine output providers debug).toValue.fields =
      new engine output providers debug := by
  show new (.object (Record.update defaultEngine engine.fields))
    (.object (Record.update defaultOutput output.fields))
    (.object (mergeProviders defaultProviders providers.fields)) debug = _
  simp only [new, Value.fields, Record.update_update nodup_defaultEngine,
    Record.update_update nodup_defaultOutput,
    mergeProviders_merged extends_defaultProviders nodup_defaultProviders object_defaultProviders]

-- ---------------------------------------------------------------------------
-- Saving
-- ---------------------------------------------------------------------------

theorem isStorable_extend {old new : Value} (ho : old.isStorable = true)
    (hn : new.isStorable = true) : (extend old new).isStorable = true := by
  obtain ⟨hkeys, hold⟩ := Value.isStorable_fields ho
  have hnew := (Value.isStorable_fields hn).2
  exact Value.isStorable_object.mpr ⟨Record.nodup_update hkeys,
    Record.forall_update (p := fun value => value.isStorable = true) hold hnew⟩

theorem isStorable_mergeProviders {base given : Value} (hb : base.isStorable = true)
    (hg : given.isStorable = true) :
    (Value.object (mergeProviders base.fields given.fields)).isStorable = true := by
  obtain ⟨htypes, hbase⟩ := Value.isStorable_fields hb
  have hgiven := (Value.isStorable_fields hg).2
  rw [mergeProviders_eq_overlay]
  refine Value.isStorable_object.mpr ⟨Record.nodup_overlay htypes,
    Record.forall_overlay (p := fun value => value.isStorable = true) hbase ?_⟩
  intro merged hm entry he
  exact isStorable_extend
    (Record.forall_get (p := fun value => value.isStorable = true) hm rfl _) (hgiven entry he)

theorem isStorable_toValue {engine output providers debug : Value}
    (he : engine.isStorable = true) (ho : output.isStorable = true)
    (hp : providers.isStorable = true) (hd : debug.isStorable = true) :
    (new engine output providers debug).toValue.isStorable = true := by
  have hdefault : (Value.object defaultEngine).isStorable = true ∧
      (Value.object defaultOutput).isStorable = true ∧
      (Value.object defaultProviders).isStorable = true := by decide +kernel
  refine Value.isStorable_object.mpr ⟨isDistinct_iff.mp rfl, ?_⟩
  simp only [List.forall_mem_cons, List.not_mem_nil, false_implies, implies_true, and_true]
  exact ⟨isStorable_extend hdefault.1 he, isStorable_extend hdefault.2.1 ho,
    isStorable_mergeProviders hdefault.2.2 hp, hd⟩

theorem read_of_storedValue? {files : Files} {path : String} {settings : Settings}
    (h : storedValue? files path = some settings.toValue) :
    read files path = .ok (ofFields settings.toValue.fields) := by
  rw [read, h]
  rfl

/-- Settings that could be saved are read as they were. For they are merged
already, and to lay them over the defaults once more changes nothing. -/
theorem read_saved {engine output providers debug : Value} {files saved : Files} {path : String}
    (he : engine.isStorable = true) (ho : output.isStorable = true)
    (hp : providers.isStorable = true) (hd : debug.isStorable = true)
    (hs : (new engine output providers debug).save? files path = some saved) :
    ofFields (new engine output providers debug).toValue.fields =
        new engine output providers debug ∧
      read saved path = .ok (new engine output providers debug) := by
  have hmerged := ofFields_toValue engine output providers debug
  have hstored : storedValue? saved path = some (new engine output providers debug).toValue := by
    rw [storedValue?, Files.find?_write? hs]
    exact Option.bind_eq_some_iff.mpr ⟨_, Encoding.utf8?_ofList _,
      Json.read?_write (isStorable_toValue he ho hp hd)⟩
  exact ⟨hmerged, by rw [read_of_storedValue? hstored, hmerged]⟩

/-- Settings with an unknown type of source, unknown keys and null for a
known type. -/
def customSettings : Settings :=
  new (.object [("primary_key_field", .text "é"), ("ranks", .list [.int (-1), .null])]) .null
    (.object [("csv", .null), ("xml", .object [("tags", .object [("row", .text "r")])])])
    (.bool true)

theorem read_saved_custom :
    ∃ saved, customSettings.save? Files.empty "r" = some saved ∧
      ofFields customSettings.toValue.fields = customSettings ∧
      read saved "r" = .ok customSettings :=
  ⟨_, Files.write?_single _, read_saved (by decide +kernel) (by decide +kernel) (by decide +kernel)
    (by decide +kernel) (Files.write?_single _)⟩

end Settings

end RecordQuery
