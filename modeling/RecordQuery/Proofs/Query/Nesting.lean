import RecordQuery.Query.Nesting

/-!
# Balanced texts

A text is balanced if its quotes pair up and its parentheses outside quotes
close in order. Scanning a balanced text leaves the state as it was, and
parentheses around it make it one group whose inside is the text.
-/

namespace RecordQuery

namespace Nesting

-- ---------------------------------------------------------------------------
-- Plain characters
-- ---------------------------------------------------------------------------

def isPlain (c : Char) : Bool := c != '"' && c != '(' && c != ')'

theorem isPlain_of (p : Char → Bool) (h : p c = true) (hq : p '"' = false) (ho : p '(' = false)
    (hc : p ')' = false) : isPlain c = true := by
  have hn (d : Char) (hd : p d = false) : (c != d) = true :=
    bne_iff_ne.mpr fun he => by simp [← he, h] at hd
  simp only [isPlain, hn '"' hq, hn '(' ho, hn ')' hc, Bool.and_self]

theorem isPlain_of_isBlank (h : Text.isBlank c = true) : isPlain c = true :=
  isPlain_of Text.isBlank h rfl rfl rfl

theorem step_plain (state : Nesting) (h : isPlain c) : state.step c = state := by
  simp only [isPlain, Bool.and_eq_true, bne_iff_ne] at h
  obtain ⟨⟨hq, ho⟩, hc⟩ := h
  cases hs : state.inQuotes <;> simp [step, hq, ho, hc, hs]

@[simp] theorem run_nil (state : Nesting) : state.run [] = state := rfl

@[simp] theorem run_cons (state : Nesting) (c : Char) (text : List Char) :
    state.run (c :: text) = (state.step c).run text := rfl

theorem run_plain (state : Nesting) (h : ∀ c ∈ text, isPlain c) : state.run text = state := by
  induction text with
  | nil => rfl
  | cons c text ih =>
    rw [run_cons, step_plain state (h c (by simp))]
    exact ih fun d hd => h d (List.mem_cons_of_mem _ hd)

theorem step_in_quotes (d : Int) (h : c ≠ '"') : (⟨d, true⟩ : Nesting).step c = ⟨d, true⟩ := by
  simp [step, h]

theorem run_in_quotes (d : Int) (h : '"' ∉ text) :
    (⟨d, true⟩ : Nesting).run text = ⟨d, true⟩ := by
  induction text with
  | nil => rfl
  | cons c text ih =>
    rw [run_cons, step_in_quotes d fun hc => h (by simp [hc])]
    exact ih fun hm => h (List.mem_cons_of_mem _ hm)

theorem marked_in_quotes (d : Int) (text : List Char) (h : '"' ∉ text) :
    (⟨d, true⟩ : Nesting).marked text = text.map fun c => (c, none) := by
  induction text with
  | nil => rfl
  | cons c text ih =>
    rw [marked, step_in_quotes d fun hc => h (by simp [hc]),
      ih fun hm => h (List.mem_cons_of_mem _ hm)]
    simp [depthAt?]

theorem marked_quoted (state : Nesting) (hs : state.inQuotes = false) (h : '"' ∉ text) :
    state.marked ('"' :: (text ++ ['"'])) =
      ('"' :: (text ++ ['"'])).map fun c => (c, none) := by
  obtain ⟨depth, inQuotes⟩ := state
  obtain rfl : inQuotes = false := hs
  rw [marked]
  show ('"', none) :: (⟨depth, true⟩ : Nesting).marked (text ++ ['"']) = _
  rw [marked_append, marked_in_quotes depth text h, run_in_quotes depth h]
  simp [marked, depthAt?]

theorem run_quoted (state : Nesting) (hs : state.inQuotes = false) (h : '"' ∉ text) :
    state.run ('"' :: (text ++ ['"'])) = state := by
  obtain ⟨depth, inQuotes⟩ := state
  obtain rfl : inQuotes = false := hs
  rw [run_cons, run_append]
  show ((⟨depth, true⟩ : Nesting).run text).run ['"'] = ⟨depth, false⟩
  rw [run_in_quotes depth h]
  rfl

-- ---------------------------------------------------------------------------
-- Scanning at another depth
-- ---------------------------------------------------------------------------

def lift (d : Int) (state : Nesting) : Nesting := ⟨state.depth + d, state.inQuotes⟩

theorem step_lift (d : Int) (state : Nesting) (c : Char) :
    (state.lift d).step c = (state.step c).lift d := by
  obtain ⟨depth, inQuotes⟩ := state
  by_cases hq : c = '"'
  · simp [step, lift, hq]
  · cases inQuotes with
    | true => simp [step, lift, hq]
    | false =>
      by_cases ho : c = '('
      · simp only [step, lift, ho, beq_iff_eq, Char.reduceEq, ↓reduceIte, Bool.false_eq_true,
          mk.injEq, and_true]
        omega
      · by_cases hc : c = ')'
        · simp only [step, lift, hc, beq_iff_eq, Char.reduceEq, ↓reduceIte, Bool.false_eq_true,
            mk.injEq, and_true]
          omega
        · simp [step, lift, hq, ho, hc]

theorem run_lift (d : Int) (state : Nesting) (text : List Char) :
    (state.lift d).run text = (state.run text).lift d := by
  induction text generalizing state with
  | nil => rfl
  | cons c text ih => rw [run_cons, step_lift, ih, run_cons]

/-- A depth that is told was reached after some part of the text. -/
theorem prefix_of_mem_marked {state : Nesting} (h : (c, some d) ∈ state.marked text) :
    ∃ before, before <+: text ∧ (state.run before).depth = d := by
  induction text generalizing state with
  | nil => simp [marked] at h
  | cons x text ih =>
    rw [marked, List.mem_cons] at h
    rcases h with h | h
    · refine ⟨[x], ⟨text, rfl⟩, ?_⟩
      have hd := (Prod.mk.inj h).2
      simp only [depthAt?] at hd
      split at hd
      · cases hd
      · exact (Option.some.inj hd).symm
    · obtain ⟨before, hb, hd⟩ := ih h
      exact ⟨x :: before, List.cons_prefix_cons.mpr ⟨rfl, hb⟩, hd⟩

-- ---------------------------------------------------------------------------
-- Balance
-- ---------------------------------------------------------------------------

/-- The number of quotes is even, and outside quotes no parenthesis closes
before it opens and none stays open. -/
structure Balanced (text : List Char) : Prop where
  quotes : text.count '"' % 2 = 0
  depth : (start.run text).depth = 0
  nonneg : ∀ before, before <+: text → 0 ≤ (start.run before).depth

theorem inQuotes_step (state : Nesting) (c : Char) :
    (state.step c).inQuotes = (state.inQuotes ^^ (c == '"')) := by
  obtain ⟨depth, inQuotes⟩ := state
  unfold step
  cases hc : c == '"' with
  | true => simp
  | false =>
    cases inQuotes with
    | true => rfl
    | false =>
      simp only [Bool.false_eq_true, ↓reduceIte, Bool.xor_false]
      split
      · rfl
      · split <;> rfl

theorem inQuotes_run (state : Nesting) (text : List Char) :
    (state.run text).inQuotes = (state.inQuotes ^^ (text.count '"' % 2 == 1)) := by
  induction text generalizing state with
  | nil => simp
  | cons c text ih =>
    rw [run_cons, ih, inQuotes_step, List.count_cons, Bool.xor_assoc]
    congr 1
    cases c == '"' with
    | false => simp
    | true =>
      rcases Nat.mod_two_eq_zero_or_one (text.count '"') with h | h <;>
        simp [h, Nat.add_mod]

theorem Balanced.run (h : Balanced text) : start.run text = start := by
  have hq : (start.run text).inQuotes = false := by
    rw [inQuotes_run, h.quotes]
    rfl
  cases hr : start.run text with
  | mk depth inQuotes =>
    have hd := h.depth
    rw [hr] at hd hq
    obtain rfl : depth = 0 := hd
    obtain rfl : inQuotes = false := hq
    rfl

theorem Balanced.of_run (h : start.run text = start)
    (hn : ∀ before, before <+: text → 0 ≤ (start.run before).depth) : Balanced text := by
  refine ⟨?_, by rw [h]; rfl, hn⟩
  have hq := inQuotes_run start text
  rw [h] at hq
  rcases Nat.mod_two_eq_zero_or_one (text.count '"') with hc | hc
  · exact hc
  · rw [hc] at hq
    cases hq

theorem Balanced.append (ha : Balanced first) (hb : Balanced second) :
    Balanced (first ++ second) := by
  refine .of_run (by rw [run_append, ha.run, hb.run]) fun before hp => ?_
  rcases List.prefix_or_prefix_of_prefix hp (List.prefix_append first second) with h | ⟨rest, rfl⟩
  · exact ha.nonneg before h
  · rw [run_append, ha.run]
    exact hb.nonneg rest ((List.prefix_append_right_inj first).mp hp)

theorem Balanced.plain (h : ∀ c ∈ text, isPlain c) : Balanced text := by
  refine .of_run (run_plain start h) fun before hp => ?_
  rw [run_plain start fun c hc => h c (hp.subset hc)]
  exact Int.le_refl 0

theorem Balanced.quoted (h : '"' ∉ text) : Balanced ('"' :: (text ++ ['"'])) := by
  refine .of_run (run_quoted start rfl h) fun before hp => ?_
  cases before with
  | nil => exact Int.le_refl 0
  | cons x before =>
    obtain ⟨rfl, hb⟩ := List.cons_prefix_cons.mp hp
    show 0 ≤ ((⟨0, true⟩ : Nesting).run before).depth
    rcases List.prefix_concat_iff.mp hb with rfl | hb
    · rw [run_append, run_in_quotes 0 h]
      exact Int.le_refl 0
    · have hr := run_in_quotes 0 fun hm => h (hb.subset hm)
      exact Int.le_of_eq (congrArg Nesting.depth hr).symm

theorem Balanced.group (h : Balanced text) : Balanced ('(' :: (text ++ [')'])) := by
  have ht (rest : List Char) : start.run ('(' :: rest) = (start.run rest).lift 1 := by
    rw [run_cons, ← run_lift]
    rfl
  have hr : start.run (text ++ [')']) = ⟨-1, false⟩ := by
    rw [run_append, h.run]
    rfl
  refine .of_run (by rw [ht, hr]; rfl) fun before hp => ?_
  cases before with
  | nil => exact Int.le_refl 0
  | cons x before =>
    obtain ⟨rfl, hb⟩ := List.cons_prefix_cons.mp hp
    rw [ht]
    rcases List.prefix_concat_iff.mp hb with rfl | hb
    · rw [hr]
      exact Int.le_refl 0
    · have := h.nonneg before hb
      simp only [lift]
      omega

/-- All depths inside a group are positive but that of its last character. -/
theorem marked_group (h : start.run text = start) :
    start.marked ('(' :: (text ++ [')'])) =
      ('(', some 1) :: ((start.lift 1).marked text ++ [(')', some 0)]) := by
  have hr : (start.lift 1).run text = start.lift 1 := by rw [run_lift, h]
  show _ :: (start.lift 1).marked (text ++ [')']) = _
  rw [marked_append, hr]
  rfl

theorem Balanced.pos_of_mem (h : Balanced text) (hm : (c, some d) ∈ (start.lift 1).marked text) :
    0 < d := by
  obtain ⟨before, hb, rfl⟩ := prefix_of_mem_marked hm
  have := h.nonneg before hb
  rw [run_lift]
  simp only [lift]
  omega

-- ---------------------------------------------------------------------------
-- Texts without groups
-- ---------------------------------------------------------------------------

theorem hasParentheses_append (h : start.run first = start) (second : List Char) :
    hasParentheses (first ++ second) = (hasParentheses first || hasParentheses second) := by
  simp only [hasParentheses, marked_append, h, List.any_append]

structure Flat (text : List Char) : Prop extends Balanced text where
  noGroups : hasParentheses text = false

theorem Flat.plain (h : ∀ c ∈ text, isPlain c) : Flat text where
  toBalanced := .plain h
  noGroups := by
    refine List.any_eq_false.mpr fun mark hm => ?_
    have hc : isPlain mark.1 = true := by
      refine h mark.1 ?_
      rw [← map_fst_marked start text]
      exact List.mem_map_of_mem hm
    simp only [isPlain, Bool.and_eq_true, bne_iff_ne] at hc
    simp [hc.1.2, hc.2]

theorem Flat.quoted (h : '"' ∉ text) : Flat ('"' :: (text ++ ['"'])) where
  toBalanced := .quoted h
  noGroups := by simp [hasParentheses, marked_quoted start rfl h]

theorem Flat.append (ha : Flat first) (hb : Flat second) : Flat (first ++ second) where
  toBalanced := ha.toBalanced.append hb.toBalanced
  noGroups := by rw [hasParentheses_append ha.run, ha.noGroups, hb.noGroups]; rfl

end Nesting

-- ---------------------------------------------------------------------------
-- Groups
-- ---------------------------------------------------------------------------

theorem isEnclosed_group (h : Nesting.Balanced text) :
    isEnclosed ('(' :: (text ++ [')'])) = true := by
  have hl : (Nesting.start.marked ('(' :: (text ++ [')']))).getLast? = some (')', some 0) := by
    rw [Nesting.marked_group h.run, ← List.cons_append, List.getLast?_concat]
  have hd : (Nesting.start.marked ('(' :: (text ++ [')']))).dropLast =
      ('(', some 1) :: (Nesting.start.lift 1).marked text := by
    rw [Nesting.marked_group h.run, ← List.cons_append, List.dropLast_concat]
  simp only [isEnclosed, hl, hd, List.head?_cons, List.all_cons]
  refine Bool.and_eq_true_iff.mpr ⟨rfl, List.all_eq_true.mpr fun mark hm => ?_⟩
  obtain ⟨c, depth⟩ := mark
  cases depth with
  | none => rfl
  | some d => exact decide_eq_true (h.pos_of_mem hm)

theorem unwrap?_group (h : Nesting.Balanced text) (hi : Text.trim text ≠ []) :
    unwrap? ('(' :: (text ++ [')'])) = some (Text.trim text) := by
  rw [unwrap?, if_pos (isEnclosed_group h)]
  rw [List.tail_cons, List.dropLast_concat]
  cases ht : Text.trim text with
  | nil => exact absurd ht hi
  | cons c inner => rfl

theorem unwrap?_of_head_ne (h : text.head? ≠ some '(') : unwrap? text = none := by
  have he : isEnclosed text = false := by
    simp only [isEnclosed]
    split
    · next hh _ => exact absurd hh h
    · rfl
  rw [unwrap?, he]
  rfl

end RecordQuery
