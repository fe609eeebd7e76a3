import Mathlib.Data.List.Induction
import Mathlib.Data.List.Nodup

/-!
# First and repeated occurrences

The items of a list fall into those that are the first with their key and
those that repeat a key. Adding an item at the end leaves the others where
they are, so both parts of a list are read from left to right.
-/

namespace RecordQuery.Occurrence

variable {α κ : Type} [DecidableEq κ]

/-- An earlier item has the key of the item at a place. -/
def isRepeat (key : α → κ) (items : List α) (entry : α × Nat) : Bool :=
  decide (key entry.1 ∈ (items.take entry.2).map key)

def firsts (key : α → κ) (items : List α) : List α :=
  (items.zipIdx.filter fun entry => !isRepeat key items entry).map Prod.fst

def repeats (key : α → κ) (items : List α) : List α :=
  (items.zipIdx.filter (isRepeat key items)).map Prod.fst

section
variable (key : α → κ) (items : List α) (item : α)

theorem isRepeat_append {entry : α × Nat} (h : entry ∈ items.zipIdx) :
    isRepeat key (items ++ [item]) entry = isRepeat key items entry := by
  obtain ⟨-, hl, -⟩ := List.mem_zipIdx h
  rw [isRepeat, isRepeat, List.take_append_of_le_length (by omega)]

theorem isRepeat_last :
    isRepeat key (items ++ [item]) (item, items.length) = decide (key item ∈ items.map key) := by
  simp [isRepeat]

theorem zipIdx_concat : (items ++ [item]).zipIdx = items.zipIdx ++ [(item, items.length)] := by
  simp [List.zipIdx_append]

theorem filter_concat (keeps : Bool → Bool) :
    ((items ++ [item]).zipIdx.filter fun entry =>
        keeps (isRepeat key (items ++ [item]) entry)).map Prod.fst =
      (items.zipIdx.filter fun entry => keeps (isRepeat key items entry)).map Prod.fst ++
        if keeps (decide (key item ∈ items.map key)) then [item] else [] := by
  have hk : ∀ entry ∈ items.zipIdx,
      keeps (isRepeat key (items ++ [item]) entry) = keeps (isRepeat key items entry) :=
    fun entry he => congrArg keeps (isRepeat_append key items item he)
  rw [zipIdx_concat, List.filter_append, List.filter_congr hk, List.map_append,
    List.filter_singleton, isRepeat_last]
  cases keeps (decide (key item ∈ items.map key)) <;> rfl

theorem firsts_concat :
    firsts key (items ++ [item]) =
      firsts key items ++ if key item ∈ items.map key then [] else [item] := by
  refine (filter_concat key items item (!·)).trans ?_
  by_cases h : key item ∈ items.map key
  · simp [h, firsts]
  · simp [h, firsts]

theorem repeats_concat :
    repeats key (items ++ [item]) =
      repeats key items ++ if key item ∈ items.map key then [item] else [] := by
  refine (filter_concat key items item id).trans ?_
  simp only [id, decide_eq_true_eq]
  rfl

end

section
variable {key : α → κ} {items : List α}

theorem firsts_sublist (key : α → κ) (items : List α) : (firsts key items).Sublist items := by
  have h : (firsts key items).Sublist (items.zipIdx.map Prod.fst) := List.filter_sublist.map Prod.fst
  rwa [List.zipIdx_map_fst] at h

theorem mem_keys_firsts {k : κ} : k ∈ (firsts key items).map key ↔ k ∈ items.map key := by
  induction items using List.reverseRecOn with
  | nil => rfl
  | append_singleton items item ih =>
    rw [firsts_concat, List.map_append, List.map_append, List.mem_append, List.mem_append, ih]
    split
    · next h =>
      refine ⟨.inl ∘ fun hk => hk.resolve_right (by simp), ?_⟩
      rintro (hk | hk)
      · exact .inl hk
      · exact .inl (List.mem_singleton.mp hk ▸ h)
    · rfl

theorem nodup_keys_firsts (key : α → κ) (items : List α) : ((firsts key items).map key).Nodup := by
  induction items using List.reverseRecOn with
  | nil => exact List.nodup_nil
  | append_singleton items item ih =>
    rw [firsts_concat]
    split
    · rwa [List.append_nil]
    · next h =>
      rw [List.map_append, List.nodup_append]
      refine ⟨ih, List.nodup_singleton _, ?_⟩
      rintro k hk _ hi rfl
      rw [mem_keys_firsts, List.mem_singleton.mp hi] at hk
      exact h hk

theorem length_firsts_add_length_repeats (key : α → κ) (items : List α) :
    (firsts key items).length + (repeats key items).length = items.length := by
  have h := List.length_eq_length_filter_add (l := items.zipIdx) (isRepeat key items)
  rw [List.length_zipIdx] at h
  rw [firsts, repeats, List.length_map, List.length_map]
  omega

theorem firsts_eq_self (h : (items.map key).Nodup) : firsts key items = items := by
  induction items using List.reverseRecOn with
  | nil => rfl
  | append_singleton items item ih =>
    rw [List.map_append, List.nodup_append] at h
    obtain ⟨hi, -, hd⟩ := h
    have hn : key item ∉ items.map key := fun hm => hd _ hm _ (List.mem_singleton.mpr rfl) rfl
    rw [firsts_concat, if_neg hn, ih hi]

theorem repeats_eq_nil (h : (items.map key).Nodup) : repeats key items = [] := by
  have hl := length_firsts_add_length_repeats key items
  rw [firsts_eq_self h] at hl
  exact List.length_eq_zero_iff.mp (by omega)

theorem mem_keys_others {k : κ} (item : α) (h : k ≠ key item) :
    k ∈ (items.filter fun other => decide (key other ≠ key item)).map key ↔ k ∈ items.map key := by
  simp only [List.mem_map, List.mem_filter, decide_eq_true_eq]
  constructor
  · rintro ⟨other, ⟨ho, -⟩, hk⟩
    exact ⟨other, ho, hk⟩
  · rintro ⟨other, ho, rfl⟩
    exact ⟨other, ⟨ho, h⟩, rfl⟩

theorem firsts_cons (item : α) (items : List α) :
    firsts key (item :: items) =
      item :: firsts key (items.filter fun other => decide (key other ≠ key item)) := by
  induction items using List.reverseRecOn with
  | nil => rfl
  | append_singleton items last ih =>
    rw [← List.cons_append, firsts_concat, ih, List.filter_append]
    by_cases hl : key last = key item
    · simp [hl]
    · have ho : [last].filter (fun other => decide (key other ≠ key item)) = [last] := by simp [hl]
      have hm : key last ∈ (item :: items).map key ↔
          key last ∈ (items.filter fun other => decide (key other ≠ key item)).map key := by
        rw [mem_keys_others item hl, List.map_cons, List.mem_cons, or_iff_right hl]
      rw [ho, firsts_concat]
      simp only [hm, List.cons_append]

/-- What repeats the form of an earlier item is left out, in whatever way forms
are compared. -/
theorem eraseDupsBy_eq_firsts {same : α → α → Bool}
    (h : ∀ first second, same first second = true ↔ key first = key second) (items : List α) :
    items.eraseDupsBy same = firsts key items := by
  match items with
  | [] => rfl
  | item :: rest =>
    have hf : (fun other => same other item == false) = fun other => decide (key other ≠ key item) := by
      funext other
      rw [Bool.eq_iff_iff, beq_iff_eq, decide_eq_true_iff, ne_eq, ← h, Bool.not_eq_true]
    rw [List.eraseDupsBy_cons, firsts_cons, ← hf, eraseDupsBy_eq_firsts h]
    rfl
termination_by items.length
decreasing_by exact Nat.lt_succ_of_le (List.length_filter_le _ _)

end

end RecordQuery.Occurrence
