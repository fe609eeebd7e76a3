import Mathlib.Data.List.Nodup

/-!
# Ordered maps

Values under distinct texts, told by what is found under a text and by the
order of the texts alone. A list of items stands for such a map if no two of
them have the same text.
-/

namespace RecordQuery

structure OrderedMap (α : Type) where
  keys : List String
  find? : String → Option α
  distinct : keys.Nodup
  mem_keys : ∀ key, key ∈ keys ↔ (find? key).isSome

namespace OrderedMap

variable {α : Type}

def size (map : OrderedMap α) : Nat := map.keys.length

def ofItems (text : α → String) (items : List α) (h : (items.map text).Nodup) : OrderedMap α where
  keys := items.map text
  find? key := items.find? fun item => text item == key
  distinct := h
  mem_keys key := by simp

/-- Another value under a key, in its place; a new key comes last. -/
def put (map : OrderedMap α) (key : String) (value : α) : OrderedMap α where
  keys := if key ∈ map.keys then map.keys else map.keys ++ [key]
  find? other := if other = key then some value else map.find? other
  distinct := by
    split
    · exact map.distinct
    · next hn =>
      refine List.nodup_append.mpr ⟨map.distinct, List.nodup_singleton key, ?_⟩
      rintro other ho _ hk rfl
      exact hn (List.mem_singleton.mp hk ▸ ho)
  mem_keys other := by
    by_cases ho : other = key
    · subst ho
      split <;> simp_all
    · split <;> simp [ho, map.mem_keys]

def erase (map : OrderedMap α) (key : String) : OrderedMap α where
  keys := map.keys.erase key
  find? other := if other = key then none else map.find? other
  distinct := map.distinct.erase key
  mem_keys other := by
    rw [map.distinct.mem_erase_iff, map.mem_keys]
    by_cases ho : other = key <;> simp [ho]

-- ---------------------------------------------------------------------------
-- Lists of items
-- ---------------------------------------------------------------------------

structure Lists (text : α → String) (map : OrderedMap α) (items : List α) : Prop where
  keys : map.keys = items.map text
  find : ∀ key, map.find? key = items.find? fun item => text item == key

/-- Puts an item in the place of the first with its text, or at the end. -/
def upsert (text : α → String) (item : α) : List α → List α
  | [] => [item]
  | other :: rest => if text other = text item then item :: rest else other :: upsert text item rest

section
variable {text : α → String} {items : List α} {item : α} {map : OrderedMap α}

theorem Lists.distinct (h : map.Lists text items) : (items.map text).Nodup := h.keys ▸ map.distinct

theorem Lists.size (h : map.Lists text items) : map.size = items.length := by
  rw [OrderedMap.size, h.keys, List.length_map]

theorem lists_ofItems (h : (items.map text).Nodup) : (ofItems text items h).Lists text items :=
  ⟨rfl, fun _ => rfl⟩

theorem upsert_of_place (h : items.findIdx? (fun other => text other == text item) = some index) :
    items.set index item = upsert text item items := by
  induction items generalizing index with
  | nil => simp at h
  | cons other rest ih =>
    rw [List.findIdx?_cons] at h
    by_cases ht : text other = text item
    · rw [if_pos (beq_iff_eq.mpr ht)] at h
      obtain rfl : 0 = index := Option.some.inj h
      simp [upsert, ht]
    · rw [if_neg (by simpa using ht), Option.map_eq_some_iff] at h
      obtain ⟨place, hp, rfl⟩ := h
      rw [List.set_cons_succ, upsert, if_neg ht, ih hp]

theorem upsert_of_absent (h : items.findIdx? (fun other => text other == text item) = none) :
    items ++ [item] = upsert text item items := by
  induction items with
  | nil => rfl
  | cons other rest ih =>
    obtain ⟨ht, hr⟩ := List.forall_mem_cons.mp (List.findIdx?_eq_none_iff.mp h)
    rw [List.cons_append, upsert, if_neg (by simpa using ht), ih (List.findIdx?_eq_none_iff.mpr hr)]

theorem keys_upsert (item : α) (items : List α) :
    (upsert text item items).map text =
      if text item ∈ items.map text then items.map text else items.map text ++ [text item] := by
  induction items with
  | nil => rfl
  | cons other rest ih =>
    by_cases ht : text other = text item
    · simp [upsert, ht]
    · rw [upsert, if_neg ht, List.map_cons, ih, List.map_cons]
      by_cases hm : text item ∈ rest.map text
      · rw [if_pos hm, if_pos (List.mem_cons_of_mem _ hm)]
      · rw [if_neg hm, if_neg (List.not_mem_cons_of_ne_of_not_mem (Ne.symm ht) hm)]
        rfl

theorem find?_cons_text (first : α) (rest : List α) (key : String) :
    (first :: rest).find? (fun item => text item == key) =
      if text first = key then some first else rest.find? fun item => text item == key := by
  by_cases h : text first = key
  · rw [List.find?_cons_of_pos (p := fun item => text item == key) (beq_iff_eq.mpr h), if_pos h]
  · rw [List.find?_cons_of_neg (p := fun item => text item == key) (by simpa using h), if_neg h]

theorem find?_upsert (item : α) (items : List α) (key : String) :
    (upsert text item items).find? (fun other => text other == key) =
      if key = text item then some item else items.find? fun other => text other == key := by
  induction items with
  | nil =>
    rw [upsert, find?_cons_text]
    simp only [eq_comm, List.find?_nil]
  | cons other rest ih =>
    by_cases ht : text other = text item
    · rw [upsert, if_pos ht, find?_cons_text, find?_cons_text, ht]
      by_cases hk : key = text item
      · rw [if_pos hk.symm, if_pos hk]
      · rw [if_neg (Ne.symm hk), if_neg hk, if_neg (Ne.symm hk)]
    · rw [upsert, if_neg ht, find?_cons_text, find?_cons_text, ih]
      by_cases hk : key = text item
      · rw [if_pos hk, if_pos hk, if_neg (hk ▸ ht)]
      · rw [if_neg hk, if_neg hk]

theorem Lists.put (h : map.Lists text items) (item : α) :
    (map.put (text item) item).Lists text (upsert text item items) where
  keys := by
    rw [keys_upsert, ← h.keys]
    rfl
  find key := by
    rw [find?_upsert, ← h.find]
    rfl

theorem find?_eraseP (hd : (items.map text).Nodup) (key other : String) :
    (items.eraseP fun item => text item == key).find? (fun item => text item == other) =
      if other = key then none else items.find? fun item => text item == other := by
  induction items with
  | nil => simp
  | cons first rest ih =>
    obtain ⟨hf, hr⟩ := List.nodup_cons.mp hd
    by_cases ht : text first = key
    · subst ht
      rw [List.eraseP_cons_of_pos (p := fun item => text item == text first) (beq_self_eq_true _),
        find?_cons_text]
      by_cases ho : other = text first
      · -- The key occurs once, so it is gone with the first item.
        rw [if_pos ho, List.find?_eq_none]
        intro item hm he
        exact hf (ho ▸ beq_iff_eq.mp he ▸ List.mem_map_of_mem hm)
      · rw [if_neg ho, if_neg (Ne.symm ho)]
    · rw [List.eraseP_cons_of_neg (p := fun item => text item == key) (by simpa using ht),
        find?_cons_text, find?_cons_text, ih hr]
      by_cases ho : other = key
      · rw [if_pos ho, if_pos ho, if_neg (ho ▸ ht)]
      · rw [if_neg ho, if_neg ho]

theorem filter_upsert (item : α) (items : List α) :
    (upsert text item items).filter (fun other => text other != text item) =
      items.filter fun other => text other != text item := by
  induction items with
  | nil => simp [upsert]
  | cons other rest ih =>
    by_cases ht : text other = text item
    · simp [upsert, ht]
    · rw [upsert, if_neg ht, List.filter_cons, List.filter_cons, ih]

theorem filter_eraseP (items : List α) (key : String) :
    (items.eraseP fun item => text item == key).filter (fun item => text item != key) =
      items.filter fun item => text item != key := by
  induction items with
  | nil => rfl
  | cons first rest ih =>
    by_cases ht : text first = key
    · simp [ht]
    · rw [List.eraseP_cons_of_neg (p := fun item => text item == key) (by simpa using ht),
        List.filter_cons, List.filter_cons, ih]

theorem find?_filter_other {key other : String} (hn : other ≠ key) (items : List α) :
    (items.filter fun item => text item != key).find? (fun item => text item == other) =
      items.find? fun item => text item == other := by
  rw [List.find?_filter]
  congr
  funext item
  by_cases ht : text item = other
  · subst ht
    simp [hn]
  · simp [ht]

theorem Lists.erase (h : map.Lists text items) (key : String) :
    (map.erase key).Lists text (items.eraseP fun item => text item == key) where
  keys := by
    show map.keys.erase key = _
    rw [h.keys, List.erase_eq_eraseP, List.eraseP_map]
    simp only [Function.comp_def, BEq.comm]
  find other := by
    rw [find?_eraseP h.distinct, ← h.find]
    rfl

end

end OrderedMap

end RecordQuery
