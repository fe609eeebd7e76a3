import Mathlib.Data.List.Basic

/-!
# Attempts in a row

Attempts made one after another have all their results if none of them
fails, and otherwise the first failure.
-/

namespace RecordQuery.Attempt

variable {ε α β : Type} {f : α → Except ε β} {a : α}

theorem bind_ok {first : Except ε α} {next : α → Except ε β} {b : β} :
    first >>= next = .ok b ↔ ∃ a, first = .ok a ∧ next a = .ok b := by
  cases first <;> simp [bind, Except.bind]

theorem bind_error {first : Except ε α} {next : α → Except ε β} {failure : ε} :
    first >>= next = .error failure ↔
      first = .error failure ∨ ∃ a, first = .ok a ∧ next a = .error failure := by
  cases first <;> simp [bind, Except.bind]

theorem then_ok {check : Except ε Unit} {next : Except ε β} {b : β} :
    (do check; next) = .ok b ↔ check = .ok () ∧ next = .ok b := by
  cases check <;> simp [bind, Except.bind]

theorem map_ok {attempt : Except ε α} {g : α → β} {b : β} :
    attempt.map g = .ok b ↔ ∃ a, attempt = .ok a ∧ g a = b := by
  cases attempt <;> simp [Except.map]

theorem map_error {attempt : Except ε α} {g : α → β} {failure : ε} :
    attempt.map g = .error failure ↔ attempt = .error failure := by
  cases attempt <;> simp [Except.map]

theorem mapError_bind {ε' : Type} {f : ε → ε'} {first : Except ε α} {next : α → Except ε β} :
    (first >>= next).mapError f = first.mapError f >>= fun a => (next a).mapError f := by
  cases first <;> rfl

theorem fails_iff {attempt : Except ε α} :
    (∃ failure, attempt = .error failure) ↔ ¬ ∃ result, attempt = .ok result := by
  cases attempt <;> simp

theorem isOk_iff {attempt : Except ε α} :
    attempt.isOk = true ↔ ∃ result, attempt = .ok result := by
  cases attempt <;> simp [Except.isOk, Except.toBool]

theorem mapM_cons_ok {b : β} (h : f a = .ok b) (rest : List α) :
    (a :: rest).mapM f = (rest.mapM f).map (b :: ·) := by
  rw [List.mapM_cons, h]
  cases rest.mapM f <;> rfl

theorem mapM_cons_error {failure : ε} (h : f a = .error failure) (rest : List α) :
    (a :: rest).mapM f = .error failure := by
  rw [List.mapM_cons, h]
  rfl

theorem getElem?_of_mapM {items : List α} {results : List β} {i : Nat}
    (h : items.mapM f = .ok results) (hi : items[i]? = some a) :
    ∃ b, results[i]? = some b ∧ f a = .ok b := by
  induction items generalizing i results with
  | nil => simp at hi
  | cons first rest ih =>
    simp only [List.mapM_cons, bind_ok] at h
    obtain ⟨b, hf, others, hr, h⟩ := h
    obtain rfl : b :: others = results := Except.ok.inj h
    cases i with
    | zero =>
      obtain rfl : first = a := Option.some.inj hi
      exact ⟨b, rfl, hf⟩
    | succ i =>
      obtain ⟨c, hc, hfa⟩ := ih hr (show rest[i]? = some a from hi)
      exact ⟨c, hc, hfa⟩

theorem exists_mem_of_mapM {items : List α} {results : List β} (h : items.mapM f = .ok results)
    (hm : a ∈ items) : ∃ b ∈ results, f a = .ok b := by
  obtain ⟨i, hi⟩ := List.mem_iff_getElem?.mp hm
  obtain ⟨b, hr, hb⟩ := getElem?_of_mapM h hi
  exact ⟨b, List.mem_of_getElem? hr, hb⟩

theorem ok_of_mapM {items : List α} {results : List β} (h : items.mapM f = .ok results)
    (hm : a ∈ items) : ∃ b, f a = .ok b :=
  (exists_mem_of_mapM h hm).imp fun _ hb => hb.2

theorem exists_mapM {items : List α} (h : ∀ a ∈ items, ∃ b, f a = .ok b) :
    ∃ results, items.mapM f = .ok results := by
  induction items with
  | nil => exact ⟨[], rfl⟩
  | cons first rest ih =>
    obtain ⟨b, hb⟩ := h first List.mem_cons_self
    obtain ⟨others, ho⟩ := ih fun a ha => h a (List.mem_cons_of_mem _ ha)
    exact ⟨b :: others, by rw [mapM_cons_ok hb, ho]; rfl⟩

theorem mapM_of_forall {items : List α} {g : α → β} (h : ∀ a ∈ items, f a = .ok (g a)) :
    items.mapM f = .ok (items.map g) := by
  induction items with
  | nil => rfl
  | cons first rest ih =>
    rw [mapM_cons_ok (h first List.mem_cons_self), ih fun a ha => h a (List.mem_cons_of_mem _ ha)]
    rfl

theorem mapM_ok_iff {p : α → Prop} {g : α → β} (h : ∀ a b, f a = .ok b ↔ p a ∧ g a = b)
    {items : List α} {results : List β} :
    items.mapM f = .ok results ↔ (∀ a ∈ items, p a) ∧ items.map g = results := by
  constructor
  · intro hr
    have hp : ∀ a ∈ items, p a := fun a hm => by
      obtain ⟨b, hb⟩ := ok_of_mapM hr hm
      exact ((h a b).mp hb).1
    rw [mapM_of_forall fun a hm => (h a (g a)).mpr ⟨hp a hm, rfl⟩] at hr
    exact ⟨hp, Except.ok.inj hr⟩
  · rintro ⟨hp, rfl⟩
    exact mapM_of_forall fun a hm => (h a (g a)).mpr ⟨hp a hm, rfl⟩

theorem forall₂_of_mapM {items : List α} {results : List β} (h : items.mapM f = .ok results) :
    List.Forall₂ (fun a b => f a = .ok b) items results := by
  induction items generalizing results with
  | nil =>
    cases h
    exact .nil
  | cons first rest ih =>
    simp only [List.mapM_cons, bind_ok] at h
    obtain ⟨b, hf, others, hr, h⟩ := h
    cases h
    exact .cons hf (ih hr)

theorem exists_of_mem_mapM {items : List α} {results : List β} {b : β}
    (h : items.mapM f = .ok results) (hb : b ∈ results) : ∃ a ∈ items, f a = .ok b := by
  have hf := forall₂_of_mapM h
  clear h
  induction hf with
  | nil => cases hb
  | cons hab _ ih =>
    rcases List.mem_cons.mp hb with rfl | hb
    · exact ⟨_, List.mem_cons_self, hab⟩
    · obtain ⟨a, ha, hf⟩ := ih hb
      exact ⟨a, List.mem_cons_of_mem _ ha, hf⟩

theorem error_of_mapM {items : List α} {failure : ε} (h : items.mapM f = .error failure) :
    ∃ a ∈ items, f a = .error failure := by
  induction items with
  | nil => cases h
  | cons first rest ih =>
    cases hf : f first with
    | error cause =>
      rw [mapM_cons_error hf] at h
      cases h
      exact ⟨first, List.mem_cons_self, hf⟩
    | ok b =>
      rw [mapM_cons_ok hf] at h
      cases hr : rest.mapM f with
      | ok others =>
        rw [hr] at h
        cases h
      | error cause =>
        rw [hr] at h
        cases h
        obtain ⟨a, ha, he⟩ := ih hr
        exact ⟨a, List.mem_cons_of_mem first ha, he⟩

theorem mapM_first_error {before after : List α} {failure : ε}
    (hb : ∀ a ∈ before, ∃ b, f a = .ok b) (h : f a = .error failure) :
    (before ++ a :: after).mapM f = .error failure := by
  induction before with
  | nil => exact mapM_cons_error h after
  | cons first before ih =>
    obtain ⟨b, hf⟩ := hb first List.mem_cons_self
    rw [List.cons_append, mapM_cons_ok hf, ih fun a ha => hb a (List.mem_cons_of_mem _ ha)]
    rfl

theorem exists_first_error {items : List α} (h : ¬ ∀ a ∈ items, ∃ b, f a = .ok b) :
    ∃ before a after failure, items = before ++ a :: after ∧
      (∀ earlier ∈ before, ∃ b, f earlier = .ok b) ∧ f a = .error failure := by
  induction items with
  | nil => exact absurd (by simp) h
  | cons first rest ih =>
    cases hf : f first with
    | error failure => exact ⟨[], first, rest, failure, rfl, by simp, hf⟩
    | ok b =>
      have hr : ¬ ∀ a ∈ rest, ∃ b, f a = .ok b := fun hr =>
        h (List.forall_mem_cons.mpr ⟨⟨b, hf⟩, hr⟩)
      obtain ⟨before, a, after, failure, rfl, hb, ha⟩ := ih hr
      exact ⟨first :: before, a, after, failure, rfl, List.forall_mem_cons.mpr ⟨⟨b, hf⟩, hb⟩, ha⟩

end RecordQuery.Attempt
