import RecordQuery.Proofs.Json.Numeral

/-!
# What reading gives

Whatever JSON text is read, the integers in its value have no more digits
than are allowed, and every object names each of its fields once.
-/

namespace RecordQuery.Json

variable {text rest : List Char} {value : Value}

theorem isReadable_of_word? (h : word? text = some (value, rest)) : value.isReadable = true := by
  obtain ⟨word, hw, he⟩ := Option.map_eq_some_iff.mp h
  obtain ⟨rfl, -⟩ := Prod.mk.inj he
  have hall : ∀ word ∈ words, word.2.isReadable = true := List.all_eq_true.mp rfl
  exact hall word (List.mem_of_find?_eq_some hw)

theorem isReadable_ofFields {fields : List (String × Value)}
    (h : ∀ field ∈ fields, field.2.isReadable = true) :
    (Value.object (Record.ofFields fields)).isReadable = true := by
  have hv := Record.forall_update (p := fun value => value.isReadable = true)
    (fun _ hm => absurd hm List.not_mem_nil) h
  exact Value.isReadable_object.mpr ⟨Record.nodup_update List.nodup_nil, hv⟩

/-- What the three readers give with some fuel is readable. -/
structure ReadsWell (fuel : Nat) : Prop where
  value : ∀ {text value rest}, valueWithin fuel text = some (value, rest) →
    value.isReadable = true
  items : ∀ {text items rest}, itemsWithin fuel text = some (items, rest) →
    ∀ item ∈ items, item.isReadable = true
  fields : ∀ {text fields rest}, fieldsWithin fuel text = some (fields, rest) →
    ∀ field ∈ fields, field.2.isReadable = true

variable {fuel : Nat}

theorem ReadsWell.value_succ (ih : ReadsWell fuel)
    (h : valueWithin (fuel + 1) text = some (value, rest)) : value.isReadable = true := by
  rw [valueWithin.eq_def] at h
  dsimp only at h
  split at h
  · obtain ⟨_, -, he⟩ := Option.map_eq_some_iff.mp h
    cases he
    rfl
  · split at h
    · cases h
      rfl
    · obtain ⟨_, hi, he⟩ := Option.map_eq_some_iff.mp h
      cases he
      exact Value.isReadable_list.mpr (ih.items hi)
  · split at h
    · cases h
      rfl
    · obtain ⟨_, hf, he⟩ := Option.map_eq_some_iff.mp h
      cases he
      exact isReadable_ofFields (ih.fields hf)
  · rcases Option.or_eq_some_iff.mp h with hw | ⟨-, hn⟩
    · exact isReadable_of_word? hw
    · exact isReadable_of_number? hn

theorem ReadsWell.items_succ (ih : ReadsWell fuel) {items : List Value}
    (h : itemsWithin (fuel + 1) text = some (items, rest)) :
    ∀ item ∈ items, item.isReadable = true := by
  obtain ⟨⟨item, after⟩, hv, h⟩ := Option.bind_eq_some_iff.mp h
  dsimp only at h
  split at h
  · obtain ⟨⟨others, _⟩, hi, he⟩ := Option.bind_eq_some_iff.mp h
    cases he
    exact List.forall_mem_cons.mpr ⟨ih.value hv, ih.items hi⟩
  · cases h
    exact List.forall_mem_singleton.mpr (ih.value hv)
  · cases h

theorem ReadsWell.fields_succ (ih : ReadsWell fuel) {fields : List (String × Value)}
    (h : fieldsWithin (fuel + 1) text = some (fields, rest)) :
    ∀ field ∈ fields, field.2.isReadable = true := by
  rw [fieldsWithin.eq_def] at h
  dsimp only at h
  split at h
  · obtain ⟨⟨name, after⟩, -, h⟩ := Option.bind_eq_some_iff.mp h
    dsimp only at h
    split at h
    · obtain ⟨⟨value, after⟩, hv, h⟩ := Option.bind_eq_some_iff.mp h
      dsimp only at h
      split at h
      · obtain ⟨⟨others, _⟩, hf, he⟩ := Option.bind_eq_some_iff.mp h
        cases he
        exact List.forall_mem_cons.mpr ⟨ih.value hv, ih.fields hf⟩
      · cases h
        exact List.forall_mem_singleton.mpr (ih.value hv)
      · cases h
    · cases h
  · cases h

theorem readsWell (fuel : Nat) : ReadsWell fuel := by
  induction fuel with
  | zero => refine ⟨?_, ?_, ?_⟩ <;> intro _ _ _ h <;> cases h
  | succ fuel ih => exact ⟨ih.value_succ, ih.items_succ, ih.fields_succ⟩

theorem isReadable_of_read? (h : read? text = some value) : value.isReadable = true := by
  obtain ⟨⟨found, after⟩, hv, h⟩ := Option.bind_eq_some_iff.mp h
  dsimp only at h
  split at h
  · cases h
    exact (readsWell _).value hv
  · cases h

end RecordQuery.Json
