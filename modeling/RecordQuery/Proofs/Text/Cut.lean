import RecordQuery.Text.Search

/-!
# Finding and cutting

A piece without the joining element is found in joined pieces only inside one
of them.

The first cut lies behind a piece `head` if the separator occurs nowhere in
`head` followed by the separator less its last element. This is all that is
needed where a separator may overlap itself: what comes after the cut plays
no part. Elements that a separator lacks keep the cuts before and behind them
apart. Separators of one element cut a concatenation without remainder.
-/

namespace RecordQuery.Text

variable {α : Type} [BEq α] [LawfulBEq α] {separator whole head rest word : List α} {x y : α}

-- ---------------------------------------------------------------------------
-- Finding
-- ---------------------------------------------------------------------------

theorem occursIn_iff {part : List α} : occursIn part whole = true ↔ part <:+: whole := by
  induction whole with
  | nil => rw [occursIn, List.isEmpty_iff, List.infix_nil]
  | cons x rest ih =>
    rw [occursIn, Bool.or_eq_true, List.isPrefixOf_iff_prefix, ih, List.infix_cons_iff]

omit [BEq α] [LawfulBEq α] in
/-- What lacks an element does not reach across it. -/
theorem infix_join_iff {part first second : List α} (hn : part ≠ []) (hx : x ∉ part) :
    part <:+: first ++ x :: second ↔ part <:+: first ∨ part <:+: second := by
  have hp {tail : List α} (h : tail <+: x :: second) (ht : ∀ y ∈ tail, y ∈ part) : tail = [] := by
    cases tail with
    | nil => rfl
    | cons y tail =>
      obtain ⟨rfl, -⟩ := List.cons_prefix_cons.mp h
      exact absurd (ht y List.mem_cons_self) hx
  rw [List.infix_append_iff, List.infix_cons_iff]
  constructor
  · rintro (h | (h | h) | ⟨left, right, rfl, hl, hr⟩)
    · exact .inl h
    · exact absurd (hp h fun y hy => hy) hn
    · exact .inr h
    · obtain rfl := hp hr fun y hy => List.mem_append_right left hy
      rw [List.append_nil]
      exact .inl hl.isInfix
  · rintro (h | h)
    · exact .inl h
    · exact .inr (.inl (.inr h))

omit [BEq α] [LawfulBEq α] in
theorem infix_intercalate_iff {part : List α} (hn : part ≠ []) (hx : x ∉ part)
    (pieces : List (List α)) :
    part <:+: [x].intercalate pieces ↔ ∃ piece ∈ pieces, part <:+: piece := by
  induction pieces with
  | nil => simpa using hn
  | cons piece pieces ih =>
    cases pieces with
    | nil => simp
    | cons other pieces =>
      rw [List.intercalate_cons_cons, List.append_assoc, List.singleton_append,
        infix_join_iff hn hx, ih]
      simp only [List.mem_cons, exists_eq_or_imp]

-- ---------------------------------------------------------------------------
-- Cutting
-- ---------------------------------------------------------------------------

omit [LawfulBEq α] in
theorem cutFrom_skip (separator skipped rest : List α) :
    cutFrom separator skipped.length (skipped ++ rest) = cut separator rest := by
  induction skipped with
  | nil => rfl
  | cons x skipped ih => exact ih

theorem cut_separator (h : separator ≠ []) (rest : List α) :
    cut separator (separator ++ rest) = [] :: cut separator rest := by
  cases separator with
  | nil => exact absurd rfl h
  | cons x tail =>
    have hp : (x :: tail).isPrefixOf (x :: (tail ++ rest)) = true :=
      List.isPrefixOf_iff_prefix.mpr ⟨rest, rfl⟩
    rw [List.cons_append, cut, cutFrom, if_pos hp]
    exact congrArg _ (cutFrom_skip (x :: tail) tail rest)

theorem cut_cons (h : ¬ separator <+: x :: rest) :
    cut separator (x :: rest) = consFirst x (cut separator rest) := by
  have hp : ¬ separator.isPrefixOf (x :: rest) = true := fun hp =>
    h (List.isPrefixOf_iff_prefix.mp hp)
  rw [cut, cutFrom, if_neg hp]
  rfl

theorem cut_of_not_infix (h : ¬ separator <:+: whole) : cut separator whole = [whole] := by
  induction whole with
  | nil => rfl
  | cons x rest ih =>
    rw [cut_cons fun hp => h hp.isInfix, ih fun hi => h (hi.trans (List.suffix_cons x rest).isInfix)]
    rfl

omit [BEq α] [LawfulBEq α] in
theorem prefix_of_prefix_append (hs : separator ≠ []) (hx : head ≠ [])
    (h : separator <+: head ++ (separator ++ rest)) :
    separator <+: head ++ separator.dropLast := by
  rw [← List.dropLast_concat_getLast hs, List.append_assoc, ← List.append_assoc head,
    List.dropLast_concat_getLast hs] at h
  refine List.prefix_of_prefix_length_le h (List.prefix_append _ _) ?_
  have := List.length_pos_iff.mpr hx
  simp only [List.length_append, List.length_dropLast]
  omega

theorem cut_append (hs : separator ≠ []) (h : ¬ separator <:+: head ++ separator.dropLast)
    (rest : List α) : cut separator (head ++ (separator ++ rest)) = head :: cut separator rest := by
  induction head with
  | nil => exact cut_separator hs rest
  | cons x head ih =>
    have hx : ¬ separator <+: x :: (head ++ (separator ++ rest)) := fun hp =>
      h (prefix_of_prefix_append hs (List.cons_ne_nil x head) hp).isInfix
    rw [List.cons_append, cut_cons hx, ih fun hi => h (hi.trans (List.suffix_cons x _).isInfix)]
    rfl

-- ---------------------------------------------------------------------------
-- Where a separator occurs first
-- ---------------------------------------------------------------------------

omit [BEq α] [LawfulBEq α] in
theorem exists_first_occurrence (hs : separator ≠ []) (h : separator <:+: whole) :
    ∃ head rest, whole = head ++ (separator ++ rest) ∧
      ¬ separator <:+: head ++ separator.dropLast := by
  induction whole with
  | nil => exact absurd (List.infix_nil.mp h) hs
  | cons x whole ih =>
    by_cases hp : separator <+: x :: whole
    · obtain ⟨rest, hr⟩ := hp
      refine ⟨[], rest, hr.symm, fun hi => ?_⟩
      have hl := hi.length_le
      have := List.length_pos_iff.mpr hs
      rw [List.nil_append, List.length_dropLast] at hl
      omega
    · obtain ⟨head, rest, rfl, hn⟩ := ih ((List.infix_cons_iff.mp h).resolve_left hp)
      refine ⟨x :: head, rest, rfl, fun hi => ?_⟩
      rcases List.infix_cons_iff.mp hi with hh | hh
      · have hd : separator.dropLast <+: separator ++ rest :=
          (List.dropLast_prefix separator).trans (List.prefix_append _ _)
        have ht := (List.prefix_append_right_inj head).mpr hd
        exact hp (hh.trans (List.cons_prefix_cons.mpr ⟨rfl, ht⟩))
      · exact hn hh

omit [BEq α] [LawfulBEq α] in
/-- Cutting follows the separators of a text, from the first on. -/
theorem cut_induction {motive : List α → Prop} (hs : separator ≠ [])
    (last : ∀ whole, ¬ separator <:+: whole → motive whole)
    (next : ∀ head rest, ¬ separator <:+: head ++ separator.dropLast → motive rest →
      motive (head ++ (separator ++ rest)))
    (whole : List α) : motive whole := by
  induction hl : whole.length using Nat.strongRecOn generalizing whole with
  | ind length ih =>
    by_cases h : separator <:+: whole
    · obtain ⟨head, rest, rfl, hn⟩ := exists_first_occurrence hs h
      have hr : rest.length < length := by
        have := List.length_pos_iff.mpr hs
        rw [← hl, List.length_append, List.length_append]
        omega
      exact next head rest hn (ih rest.length hr rest rfl)
    · exact last whole h

-- ---------------------------------------------------------------------------
-- Foreign elements
-- ---------------------------------------------------------------------------

theorem cut_foreign_append (hs : separator ≠ []) {middle first : List α} {others : List (List α)}
    (hm : ∀ x ∈ middle, x ∉ separator) (hr : cut separator rest = first :: others) :
    cut separator (middle ++ rest) = (middle ++ first) :: others := by
  induction middle with
  | nil => exact hr
  | cons x middle ih =>
    obtain ⟨hx, hm⟩ := List.forall_mem_cons.mp hm
    have hp : ¬ separator <+: x :: (middle ++ rest) := by
      cases separator with
      | nil => exact absurd rfl hs
      | cons y separator =>
        intro hp
        exact hx ((List.cons_prefix_cons.mp hp).1 ▸ List.mem_cons_self)
    rw [List.cons_append, cut_cons hp, ih hm]
    rfl

omit [BEq α] [LawfulBEq α] in
/-- A separator does not reach over an element that it lacks. -/
theorem prefix_of_prefix_foreign (hx : x ∉ separator) (h : separator <+: head ++ x :: rest) :
    separator <+: head := by
  rcases List.prefix_or_prefix_of_prefix h (List.prefix_append head (x :: rest)) with
    hp | ⟨more, rfl⟩
  · exact hp
  · cases more with
    | nil => simp
    | cons y more =>
      have hy := (List.cons_prefix_cons.mp ((List.prefix_append_right_inj head).mp h)).1
      exact absurd (by simp [hy]) hx

theorem cut_append_foreign (hh : ¬ separator <:+: head) (hx : x ∉ separator) {first : List α}
    {others : List (List α)} (hr : cut separator (x :: rest) = first :: others) :
    cut separator (head ++ x :: rest) = (head ++ first) :: others := by
  induction head with
  | nil => exact hr
  | cons y head ih =>
    have hp : ¬ separator <+: y :: (head ++ x :: rest) := by
      intro hp
      rw [← List.cons_append] at hp
      exact hh (prefix_of_prefix_foreign hx hp).isInfix
    rw [List.cons_append, cut_cons hp, ih fun hi => hh (hi.trans (List.suffix_cons y head).isInfix)]
    rfl

/-- Elements that the separator lacks leave the cuts on both sides of them
where they are: only the last piece before and the first piece behind become
one. The last piece is all of a text or what follows a separator. -/
theorem exists_cut_around (hs : separator ≠ []) (head : List α) :
    ∃ before passed left, head = passed ++ left ∧ (passed = [] ∨ separator <:+ passed) ∧
      ∀ middle rest right after, middle ≠ [] → (∀ x ∈ middle, x ∉ separator) →
        cut separator rest = right :: after →
        cut separator (head ++ (middle ++ rest)) =
          before ++ (left ++ (middle ++ right)) :: after := by
  induction head using cut_induction hs with
  | last head hn =>
    refine ⟨[], [], head, rfl, .inl rfl, fun middle rest right after hne hm hr => ?_⟩
    obtain ⟨x, middle, rfl⟩ := List.exists_cons_of_ne_nil hne
    exact cut_append_foreign hn (hm x List.mem_cons_self) (cut_foreign_append hs hm hr)
  | next head rest hn ih =>
    obtain ⟨before, passed, left, rfl, hp, hc⟩ := ih
    refine ⟨head :: before, head ++ (separator ++ passed), left, by simp, .inr ?_,
      fun middle rest right after hne hm hr => ?_⟩
    · rcases hp with rfl | hp
      · simp
      · exact hp.trans ((List.suffix_append separator passed).trans (List.suffix_append head _))
    · rw [List.append_assoc, List.append_assoc, cut_append hs hn,
        hc middle rest right after hne hm hr]
      rfl

theorem prefix_of_cut (hs : separator ≠ []) {first : List α} {others : List (List α)}
    (h : cut separator whole = first :: others) : first <+: whole := by
  by_cases hi : separator <:+: whole
  · obtain ⟨head, rest, rfl, hn⟩ := exists_first_occurrence hs hi
    rw [cut_append hs hn] at h
    obtain ⟨rfl, -⟩ := List.cons.inj h
    exact List.prefix_append _ _
  · have hw : cut separator whole = [whole] := cut_of_not_infix hi
    obtain ⟨rfl, -⟩ := List.cons.inj (h.symm.trans hw)
    exact List.prefix_rfl

theorem infix_of_mem_cut (hs : separator ≠ []) {piece : List α} (h : piece ∈ cut separator whole) :
    piece <:+: whole := by
  induction whole using cut_induction hs with
  | last whole hn =>
    have hw : cut separator whole = [whole] := cut_of_not_infix hn
    rw [hw, List.mem_singleton] at h
    exact h ▸ List.infix_rfl
  | next head rest hn ih =>
    rw [cut_append hs hn] at h
    rcases List.mem_cons.mp h with rfl | h
    · exact (List.prefix_append _ _).isInfix
    · exact (ih h).trans ((List.suffix_append _ _).trans (List.suffix_append _ _)).isInfix

-- ---------------------------------------------------------------------------
-- Separators of one element
-- ---------------------------------------------------------------------------

omit [LawfulBEq α] in
theorem cut_ne_nil (separator whole : List α) : cut separator whole ≠ [] := by
  suffices h : ∀ skip, cutFrom separator skip whole ≠ [] from h 0
  induction whole with
  | nil => intro skip; cases skip <;> simp [cutFrom]
  | cons x rest ih =>
    intro skip
    cases skip with
    | succ skip => exact ih skip
    | zero =>
      rw [cutFrom]
      split
      · simp
      · cases cutFrom separator 0 rest <;> simp [consFirst]

theorem cut_singleton_self (x : α) (rest : List α) : cut [x] (x :: rest) = [] :: cut [x] rest :=
  cut_separator (List.cons_ne_nil x []) rest

theorem cut_singleton_cons (h : y ≠ x) (rest : List α) :
    cut [x] (y :: rest) = consFirst y (cut [x] rest) :=
  cut_cons fun hp => h ((List.cons_prefix_cons.mp hp).1).symm

theorem cut_singleton_append (h : x ∉ head) (rest : List α) :
    ∃ first others, cut [x] rest = first :: others ∧
      cut [x] (head ++ rest) = (head ++ first) :: others := by
  induction head with
  | nil =>
    cases hr : cut [x] rest with
    | nil => exact absurd hr (cut_ne_nil _ _)
    | cons first others => exact ⟨first, others, rfl, hr⟩
  | cons y head ih =>
    obtain ⟨hy, hh⟩ := not_or.mp fun hm => h (List.mem_cons.mpr hm)
    obtain ⟨first, others, hr, ht⟩ := ih hh
    refine ⟨first, others, hr, ?_⟩
    rw [List.cons_append, cut_singleton_cons (Ne.symm hy), ht]
    rfl

theorem cut_singleton_of_not_mem (h : x ∉ whole) : cut [x] whole = [whole] :=
  cut_of_not_infix fun hi => h (hi.subset (List.mem_singleton_self x))

theorem cut_singleton_join (x : α) (first second : List α) :
    cut [x] (first ++ x :: second) = cut [x] first ++ cut [x] second := by
  induction first with
  | nil => exact cut_singleton_self x second
  | cons y first ih =>
    by_cases h : y = x
    · subst h
      rw [List.cons_append, cut_singleton_self, cut_singleton_self, ih]
      rfl
    · rw [List.cons_append, cut_singleton_cons h, cut_singleton_cons h, ih]
      cases hf : cut [x] first with
      | nil => exact absurd hf (cut_ne_nil _ _)
      | cons _ _ => rfl

theorem cut_singleton_intercalate {pieces : List (List α)} (hn : pieces ≠ [])
    (h : ∀ piece ∈ pieces, x ∉ piece) : cut [x] ([x].intercalate pieces) = pieces := by
  induction pieces with
  | nil => exact absurd rfl hn
  | cons piece pieces ih =>
    obtain ⟨hx, hp⟩ := List.forall_mem_cons.mp h
    cases pieces with
    | nil => rw [List.intercalate_singleton, cut_singleton_of_not_mem hx]
    | cons other pieces =>
      rw [List.intercalate_cons_cons, List.append_assoc, List.singleton_append,
        cut_singleton_join, cut_singleton_of_not_mem hx, ih (List.cons_ne_nil _ _) hp,
        List.singleton_append]

/-- A piece that stands between two separators of one element is one of the
inner pieces of the cut. -/
theorem mem_tail_cut_of_infix (hw : x ∉ word) (h : x :: (word ++ [x]) <:+: head ++ x :: word) :
    word ∈ (cut [x] head).tail := by
  obtain ⟨before, after, hb⟩ := h
  have hc := congrArg (cut [x]) hb
  simp only [List.cons_append, List.append_assoc, List.nil_append, cut_singleton_join,
    cut_singleton_of_not_mem hw] at hc
  -- The last piece of both sides is dropped; the word then lies inside.
  have hd := congrArg List.dropLast hc
  rw [List.dropLast_concat, List.dropLast_append_of_ne_nil (List.cons_ne_nil _ _),
    List.dropLast_cons_of_ne_nil (cut_ne_nil [x] after)] at hd
  cases hf : cut [x] before with
  | nil => exact absurd hf (cut_ne_nil _ _)
  | cons first others => simp [← hd, hf]

end RecordQuery.Text
