import Mathlib.Data.List.Nodup
import RecordQuery.Value

/-!
# Records laid over each other

Laying fields over a record keeps the names it has in their places and adds
new ones at the end, whatever each value makes of the one it replaces. To lay
the outcome over the same record again changes nothing, provided that every
value is settled.
-/

namespace RecordQuery.Record

variable {record base given rest : Record} {field name : String} {value : Value}

-- ---------------------------------------------------------------------------
-- One field
-- ---------------------------------------------------------------------------

theorem fields_cons : fields ((name, value) :: rest) = name :: rest.fields := rfl

theorem mem_fields_iff : name ∈ record.fields ↔ ∃ value, (name, value) ∈ record := by
  simp [fields]

theorem set_cons_self (old : Value) :
    set name value ((name, old) :: rest) = (name, value) :: rest := by
  simp [set]

theorem set_cons_of_ne (h : name ≠ field) (old : Value) :
    set field value ((name, old) :: rest) = (name, old) :: rest.set field value := by
  simp [set, h]

theorem fields_set : (record.set field value).fields =
    if field ∈ record.fields then record.fields else record.fields ++ [field] := by
  induction record with
  | nil => rfl
  | cons head rest ih =>
    obtain ⟨name, old⟩ := head
    by_cases h : name = field
    · subst h
      simp [set_cons_self, fields_cons]
    · rw [set_cons_of_ne h, fields_cons, ih, fields_cons]
      by_cases hm : field ∈ fields rest <;> simp [hm, Ne.symm h]

theorem nodup_set (h : record.fields.Nodup) : (record.set field value).fields.Nodup := by
  rw [fields_set]
  split
  · exact h
  · next hm =>
    simp only [List.nodup_append, h, List.nodup_singleton, true_and]
    rintro other ho _ hf rfl
    rw [List.mem_singleton] at hf
    exact hm (hf ▸ ho)

theorem prefix_set : record.fields <+: (record.set field value).fields := by
  rw [fields_set]
  split
  · exact List.prefix_refl _
  · exact List.prefix_append _ _

theorem mem_set {entry : String × Value} (h : entry ∈ record.set field value) :
    entry = (field, value) ∨ entry ∈ record := by
  induction record with
  | nil => exact .inl (List.mem_singleton.mp h)
  | cons head rest ih =>
    obtain ⟨name, old⟩ := head
    by_cases hn : name = field
    · subst hn
      rw [set_cons_self] at h
      rcases List.mem_cons.mp h with rfl | h
      · exact .inl rfl
      · exact .inr (List.mem_cons_of_mem _ h)
    · rw [set_cons_of_ne hn] at h
      rcases List.mem_cons.mp h with rfl | h
      · exact .inr List.mem_cons_self
      · exact (ih h).imp_right (List.mem_cons_of_mem _)

theorem get_set : (record.set field value).get name =
    if name = field then value else record.get name := by
  rw [get, find?_set]
  split <;> rfl

theorem get_cons_self : get ((name, value) :: rest) name = value := by
  simp [get, find?]

theorem get_cons_of_ne (h : field ≠ name) : get ((name, value) :: rest) field = rest.get field := by
  simp [get, find?, List.lookup_cons, beq_false_of_ne h]

theorem get_of_mem (hn : record.fields.Nodup) (h : (name, value) ∈ record) :
    record.get name = value := by
  induction record with
  | nil => cases h
  | cons head rest ih =>
    obtain ⟨first, old⟩ := head
    obtain ⟨hf, hr⟩ := List.nodup_cons.mp hn
    rcases List.mem_cons.mp h with he | hm
    · cases he
      exact get_cons_self
    · have hne : name ≠ first := by
        rintro rfl
        exact hf (mem_fields_iff.mpr ⟨value, hm⟩)
      rw [get_cons_of_ne hne, ih hr hm]

theorem get_of_not_mem (h : name ∉ record.fields) : record.get name = .null := by
  induction record with
  | nil => rfl
  | cons head rest ih =>
    obtain ⟨first, old⟩ := head
    obtain ⟨hf, hr⟩ := not_or.mp fun hm => h (List.mem_cons.mpr hm)
    rw [get_cons_of_ne hf, ih hr]

theorem get_perm (h : rest.Perm record) (hn : record.fields.Nodup) (name : String) :
    rest.get name = record.get name := by
  have hf : rest.fields.Perm record.fields := h.map Prod.fst
  by_cases hm : name ∈ record.fields
  · obtain ⟨value, hv⟩ := mem_fields_iff.mp hm
    rw [get_of_mem hn hv, get_of_mem (hf.nodup_iff.mpr hn) (h.mem_iff.mpr hv)]
  · rw [get_of_not_mem hm, get_of_not_mem fun hr => hm (hf.mem_iff.mp hr)]

theorem forall_get {p : Value → Prop} (h : ∀ entry ∈ record, p entry.2) (hn : p .null)
    (field : String) : p (record.get field) := by
  induction record with
  | nil => exact hn
  | cons head rest ih =>
    obtain ⟨name, old⟩ := head
    by_cases he : field = name
    · subst he
      rw [get_cons_self]
      exact h _ List.mem_cons_self
    · rw [get_cons_of_ne he]
      exact ih fun entry hm => h entry (List.mem_cons_of_mem _ hm)

-- ---------------------------------------------------------------------------
-- Many fields
-- ---------------------------------------------------------------------------

/-- Lays fields over a record, each combined with what its name reads as. -/
def overlay (combine : Value → Value → Value) (base given : Record) : Record :=
  given.foldl
    (fun merged entry => merged.set entry.1 (combine (merged.get entry.1) entry.2)) base

theorem update_eq_overlay (base given : Record) :
    base.update given = overlay (fun _ value => value) base given := rfl

section
variable {combine : Value → Value → Value}

theorem nodup_overlay (h : base.fields.Nodup) : (overlay combine base given).fields.Nodup :=
  given.foldlRecOn (motive := fun merged : Record => merged.fields.Nodup) _ h
    fun _ hm _ _ => nodup_set hm

theorem prefix_overlay : base.fields <+: (overlay combine base given).fields :=
  given.foldlRecOn (motive := fun merged : Record => base.fields <+: merged.fields) _
    (List.prefix_refl _) fun _ hm _ _ => hm.trans prefix_set

theorem forall_overlay {p : Value → Prop} (hb : ∀ entry ∈ base, p entry.2)
    (hc : ∀ merged : Record, (∀ entry ∈ merged, p entry.2) →
      ∀ entry ∈ given, p (combine (merged.get entry.1) entry.2)) :
    ∀ entry ∈ overlay combine base given, p entry.2 := by
  refine given.foldlRecOn (motive := fun merged : Record => ∀ entry ∈ merged, p entry.2) _ hb ?_
  intro merged hm entry he other ho
  rcases mem_set ho with rfl | ho
  · exact hc merged hm entry he
  · exact hm other ho

theorem overlay_cons (h : name ∉ given.fields) :
    overlay combine ((name, value) :: base) given = (name, value) :: overlay combine base given := by
  induction given generalizing base with
  | nil => rfl
  | cons head rest ih =>
    obtain ⟨field, new⟩ := head
    rw [fields_cons, List.mem_cons, not_or] at h
    simp only [overlay, List.foldl_cons] at ih ⊢
    rw [set_cons_of_ne h.1, get_cons_of_ne (Ne.symm h.1)]
    exact ih h.2

/-- A record with all names of another in front, whose values take no more
from it, is not changed by being laid over it. -/
theorem overlay_eq_self (hp : base.fields <+: record.fields) (hn : record.fields.Nodup)
    (hc : ∀ entry ∈ record, combine (base.get entry.1) entry.2 = entry.2) :
    overlay combine base record = record := by
  induction record generalizing base with
  | nil =>
    obtain rfl : base = [] := List.map_eq_nil_iff.mp (List.prefix_nil.mp hp)
    rfl
  | cons head rest ih =>
    obtain ⟨name, value⟩ := head
    obtain ⟨hm, hr⟩ := List.nodup_cons.mp hn
    have hhead : combine (base.get name) value = value := hc _ List.mem_cons_self
    -- What is left of the other record once the first name is in place.
    obtain ⟨left, hset, hleft, hget⟩ : ∃ left : Record,
        base.set name value = (name, value) :: left ∧ left.fields <+: fields rest ∧
          ∀ other ≠ name, base.get other = left.get other := by
      cases base with
      | nil => exact ⟨[], rfl, List.nil_prefix, fun _ _ => rfl⟩
      | cons first left =>
        obtain ⟨other, old⟩ := first
        rw [fields_cons, fields_cons, List.cons_prefix_cons] at hp
        obtain ⟨rfl, hleft⟩ := hp
        exact ⟨left, set_cons_self old, hleft, fun _ ho => get_cons_of_ne ho⟩
    have hstep : overlay combine base ((name, value) :: rest) =
        overlay combine ((name, value) :: left) rest := by
      simp only [overlay, List.foldl_cons, hhead, hset]
    rw [hstep, overlay_cons hm, ih hleft hr]
    rintro ⟨other, new⟩ ho
    have hne : other ≠ name := by
      rintro rfl
      exact hm (mem_fields_iff.mpr ⟨new, ho⟩)
    rw [← hget other hne]
    exact hc _ (List.mem_cons_of_mem _ ho)

end

theorem nodup_update (h : base.fields.Nodup) : (base.update given).fields.Nodup := by
  rw [update_eq_overlay]
  exact nodup_overlay h

theorem prefix_update : base.fields <+: (base.update given).fields := by
  rw [update_eq_overlay]
  exact prefix_overlay

theorem update_eq_self (hp : base.fields <+: record.fields) (hn : record.fields.Nodup) :
    base.update record = record := by
  rw [update_eq_overlay]
  exact overlay_eq_self hp hn fun _ _ => rfl

theorem forall_update {p : Value → Prop} (hb : ∀ entry ∈ base, p entry.2)
    (hg : ∀ entry ∈ given, p entry.2) : ∀ entry ∈ base.update given, p entry.2 := by
  rw [update_eq_overlay]
  exact forall_overlay hb fun _ _ => hg

theorem ofFields_eq_self (hn : record.fields.Nodup) : ofFields record = record :=
  update_eq_self List.nil_prefix hn

theorem update_update (h : base.fields.Nodup) :
    base.update (base.update given) = base.update given :=
  update_eq_self prefix_update (nodup_update h)

end RecordQuery.Record
