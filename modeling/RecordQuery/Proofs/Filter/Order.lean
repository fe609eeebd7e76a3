import Mathlib.Data.List.Basic
import RecordQuery.Filter.Compile

/-!
# Ordering by height

Ordering keeps every item, never puts a higher one before a lower one, and
looks at heights only.
-/

namespace RecordQuery

variable {α β : Type}

def buckets (bound : Nat) (items : List (Nat × α)) : List (Nat × α) :=
  (List.range bound).flatMap fun height => items.filter fun item => item.1 == height

theorem buckets_succ (bound : Nat) (items : List (Nat × α)) :
    buckets (bound + 1) items = buckets bound items ++ items.filter fun item => item.1 == bound := by
  simp [buckets, List.range_succ]

theorem buckets_add {bound : Nat} {items : List (Nat × α)} (h : ∀ item ∈ items, item.1 < bound)
    (more : Nat) : buckets (bound + more) items = buckets bound items := by
  induction more with
  | zero => rfl
  | succ more ih =>
    have hf : (items.filter fun item => item.1 == bound + more) = [] := by
      refine List.filter_eq_nil_iff.mpr fun item hi he => ?_
      have := h item hi
      have := beq_iff_eq.mp he
      omega
    rw [← Nat.add_assoc, buckets_succ, ih, hf, List.append_nil]

theorem le_foldl_max (heights : List Nat) (start : Nat) :
    start ≤ heights.foldl max start ∧ ∀ height ∈ heights, height ≤ heights.foldl max start := by
  induction heights generalizing start with
  | nil => exact ⟨Nat.le_refl _, by simp⟩
  | cons height heights ih =>
    obtain ⟨hs, hm⟩ := ih (max start height)
    rw [List.foldl_cons]
    refine ⟨by omega, fun other ho => ?_⟩
    rcases List.mem_cons.mp ho with rfl | ho
    · omega
    · exact hm other ho

/-- Any bound above all heights will do. -/
theorem byHeight_eq_buckets {items : List (Nat × α)} (h : ∀ item ∈ items, item.1 < bound) :
    byHeight items = buckets bound items := by
  have ht : ∀ item ∈ items, item.1 < (items.map Prod.fst).foldl max 0 + 1 := fun item hi =>
    Nat.lt_succ_of_le ((le_foldl_max _ 0).2 item.1 (List.mem_map_of_mem hi))
  show buckets ((items.map Prod.fst).foldl max 0 + 1) items = _
  rcases Nat.le_total bound ((items.map Prod.fst).foldl max 0 + 1) with hb | hb
  · obtain ⟨more, he⟩ := Nat.exists_eq_add_of_le hb
    rw [he, buckets_add h]
  · obtain ⟨more, he⟩ := Nat.exists_eq_add_of_le hb
    rw [he, buckets_add ht]

theorem exists_bound (items : List (Nat × α)) : ∃ bound, ∀ item ∈ items, item.1 < bound :=
  ⟨_, fun item hi => Nat.lt_succ_of_le
    ((le_foldl_max (items.map Prod.fst) 0).2 item.1 (List.mem_map_of_mem hi))⟩

theorem buckets_perm (bound : Nat) (items : List (Nat × α)) :
    (buckets bound items).Perm (items.filter fun item => item.1 < bound) := by
  induction bound with
  | zero => simp [buckets]
  | succ bound ih =>
    rw [buckets_succ]
    refine (ih.append_right _).trans ?_
    have hl : (items.filter fun item => item.1 < bound) =
        (items.filter fun item => item.1 < bound + 1).filter fun item => !(item.1 == bound) := by
      rw [List.filter_filter]
      refine List.filter_congr fun item _ => ?_
      by_cases h : item.1 = bound
      · simp [h]
      · have hs : item.1 < bound ↔ item.1 < bound + 1 := by omega
        simp [h, hs]
    have he : (items.filter fun item => item.1 == bound) =
        (items.filter fun item => item.1 < bound + 1).filter fun item => item.1 == bound := by
      rw [List.filter_filter]
      refine List.filter_congr fun item _ => ?_
      by_cases h : item.1 = bound <;> simp [h]
    rw [hl, he]
    refine List.perm_append_comm.trans ?_
    exact List.filter_append_perm _ _

theorem byHeight_perm (items : List (Nat × α)) : (byHeight items).Perm items := by
  obtain ⟨bound, h⟩ := exists_bound items
  have hf : (items.filter fun item => item.1 < bound) = items :=
    List.filter_eq_self.mpr fun item hi => decide_eq_true (h item hi)
  have hp := buckets_perm bound items
  rwa [hf, ← byHeight_eq_buckets h] at hp

/-- Items of one height keep the order they had. -/
theorem byHeight_pairwise {r : Nat × α → Nat × α → Prop} {items : List (Nat × α)}
    (hr : items.Pairwise r) : (byHeight items).Pairwise fun first second =>
      first.1 < second.1 ∨ first.1 = second.1 ∧ r first second := by
  obtain ⟨bound, h⟩ := exists_bound items
  rw [byHeight_eq_buckets h]
  clear h
  induction bound with
  | zero => exact List.Pairwise.nil
  | succ bound ih =>
    rw [buckets_succ]
    refine List.pairwise_append.mpr ⟨ih, ?_, fun first hf second hs => .inl ?_⟩
    · refine (hr.filter _).imp_of_mem fun hf hs hrel => .inr ⟨?_, hrel⟩
      have := beq_iff_eq.mp (List.mem_filter.mp hf).2
      have := beq_iff_eq.mp (List.mem_filter.mp hs).2
      omega
    · have := of_decide_eq_true (List.mem_filter.mp ((buckets_perm bound items).mem_iff.mp hf)).2
      have := beq_iff_eq.mp (List.mem_filter.mp hs).2
      omega

theorem byHeight_sorted (items : List (Nat × α)) :
    (byHeight items).Pairwise fun first second => first.1 ≤ second.1 := by
  have ht : items.Pairwise fun _ _ => True := List.pairwise_of_forall fun _ _ => trivial
  exact (byHeight_pairwise ht).imp fun h => h.elim Nat.le_of_lt fun h => Nat.le_of_eq h.1

theorem lt_of_height_lt {items : List (Nat × α)} {first second : Nat × α} {i j : Nat}
    (hi : (byHeight items)[i]? = some first) (hj : (byHeight items)[j]? = some second)
    (hl : first.1 < second.1) : i < j := by
  obtain ⟨hbi, rfl⟩ := List.getElem?_eq_some_iff.mp hi
  obtain ⟨hbj, rfl⟩ := List.getElem?_eq_some_iff.mp hj
  rcases Nat.lt_trichotomy i j with h | rfl | h
  · exact h
  · exact absurd hl (Nat.lt_irrefl _)
  · have hs := List.pairwise_iff_getElem.mp (byHeight_sorted items) j i hbj hbi h
    exact absurd hl (Nat.not_lt_of_le hs)

theorem byHeight_map (f : Nat × α → β) (items : List (Nat × α)) :
    byHeight (items.map fun item => (item.1, f item)) =
      (byHeight items).map fun item => (item.1, f item) := by
  simp only [byHeight, List.map_map, List.map_flatMap, List.filter_map]
  rfl

/-- An item above all others comes last. -/
theorem byHeight_concat {items : List (Nat × α)} {last : Nat × α}
    (h : ∀ item ∈ items, item.1 < last.1) : byHeight (items ++ [last]) = byHeight items ++ [last] := by
  have hb : ∀ item ∈ items ++ [last], item.1 < last.1 + 1 := by
    intro item hi
    rcases List.mem_append.mp hi with hi | hi
    · exact Nat.lt_succ_of_lt (h item hi)
    · rw [List.mem_singleton.mp hi]
      exact Nat.lt_succ_self _
  have hn : (items.filter fun item => item.1 == last.1) = [] :=
    List.filter_eq_nil_iff.mpr fun item hi he => Nat.ne_of_lt (h item hi) (beq_iff_eq.mp he)
  rw [byHeight_eq_buckets hb, byHeight_eq_buckets h, buckets_succ, List.filter_append, hn]
  simp only [List.nil_append, List.filter_cons, beq_self_eq_true, ↓reduceIte, List.filter_nil,
    List.append_cancel_right_eq, buckets]
  refine List.flatMap_congr fun height hm => ?_
  have hl : (last.1 == height) = false :=
    beq_false_of_ne (Nat.ne_of_gt (List.mem_range.mp hm))
  simp [hl]

-- ---------------------------------------------------------------------------
-- Places
-- ---------------------------------------------------------------------------

def numbersByHeight (heights : List Nat) : List Nat := (byHeight heights.zipIdx).map Prod.snd

theorem numbersByHeight_perm (heights : List Nat) :
    (numbersByHeight heights).Perm (List.range heights.length) := by
  have hp := (byHeight_perm heights.zipIdx).map Prod.snd
  rwa [List.zipIdx_map_snd, ← List.range_eq_range'] at hp

theorem mem_numbersByHeight {heights : List Nat} {number : Nat} (h : number < heights.length) :
    number ∈ numbersByHeight heights :=
  (numbersByHeight_perm heights).mem_iff.mpr (List.mem_range.mpr h)

theorem getElem?_idxOf_zipIdx {heights : List Nat} {number height : Nat}
    (h : heights[number]? = some height) :
    (byHeight heights.zipIdx)[(numbersByHeight heights).idxOf number]? = some (height, number) := by
  have hm := mem_numbersByHeight (List.getElem?_eq_some_iff.mp h).1
  have hf := List.getElem?_idxOf hm
  generalize (numbersByHeight heights).idxOf number = place at hf ⊢
  rw [numbersByHeight, List.getElem?_map, Option.map_eq_some_iff] at hf
  obtain ⟨⟨found, other⟩, hg, rfl⟩ := hf
  have hz := (byHeight_perm heights.zipIdx).mem_iff.mp (List.mem_of_getElem? hg)
  rw [List.mk_mem_zipIdx_iff_getElem?.mp hz] at h
  rw [hg, ← Option.some.inj h]

theorem zipIdx_pairwise (items : List α) :
    items.zipIdx.Pairwise fun first second => first.2 < second.2 := by
  refine List.pairwise_map.mp ?_
  rw [List.zipIdx_map_snd]
  exact List.pairwise_lt_range'

theorem idxOf_lt_idxOf_byHeight {heights : List Nat} {first second height : Nat}
    (hf : heights[first]? = some height) (hs : heights[second]? = some height)
    (hl : first < second) :
    (numbersByHeight heights).idxOf first < (numbersByHeight heights).idxOf second := by
  have hp := List.pairwise_iff_getElem.mp (byHeight_pairwise (zipIdx_pairwise heights))
  obtain ⟨hfl, hf⟩ := List.getElem?_eq_some_iff.mp (getElem?_idxOf_zipIdx hf)
  obtain ⟨hsl, hs⟩ := List.getElem?_eq_some_iff.mp (getElem?_idxOf_zipIdx hs)
  rcases Nat.lt_trichotomy ((numbersByHeight heights).idxOf first)
    ((numbersByHeight heights).idxOf second) with h | h | h
  · exact h
  · simp only [h, hs, Prod.mk.injEq, true_and] at hf
    omega
  · have hc := hp _ _ hsl hfl h
    rw [hf, hs] at hc
    simp at hc
    omega

/-- The heights alone tell where an item will be found. -/
theorem getElem?_idxOf_byHeight {items : List (Nat × α)} (h : number < items.length) :
    (byHeight items)[(numbersByHeight (items.map Prod.fst)).idxOf number]? = items[number]? := by
  -- Both lists are images of the same list of numbered items.
  let numbered := items.zipIdx.map fun item => (item.1.1, item)
  have hi : byHeight items = (byHeight numbered).map fun item => (item.1, item.2.1.2) := by
    rw [← byHeight_map]
    refine congrArg byHeight ?_
    rw [List.map_map]
    exact (List.zipIdx_map_fst 0 items).symm
  have hn : numbersByHeight (items.map Prod.fst) = (byHeight numbered).map fun item => item.2.2 := by
    have hz : (items.map Prod.fst).zipIdx = numbered.map fun item => (item.1, item.2.2) := by
      rw [List.zipIdx_map, List.map_map]
      rfl
    rw [numbersByHeight, hz, byHeight_map, List.map_map]
    rfl
  have hm : number ∈ numbersByHeight (items.map Prod.fst) :=
    mem_numbersByHeight (by rw [List.length_map]; exact h)
  have hf := List.getElem?_idxOf hm
  generalize (numbersByHeight (items.map Prod.fst)).idxOf number = place at hf ⊢
  rw [hn, List.getElem?_map, Option.map_eq_some_iff] at hf
  obtain ⟨found, hg, rfl⟩ := hf
  obtain ⟨item, hz, rfl⟩ :=
    List.mem_map.mp ((byHeight_perm numbered).mem_iff.mp (List.mem_of_getElem? hg))
  rw [hi, List.getElem?_map, hg, List.mem_zipIdx_iff_getElem?.mp hz]
  rfl

end RecordQuery
