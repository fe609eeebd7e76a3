import RecordQuery.Proofs.Text.Blank

/-!
# Words of a text

A text is cut into words at its blanks alone. A blank between two texts keeps
their words apart; which blank it is, and how many more stand beside it,
plays no part. So the words of a text are those of its normal form.
-/

namespace RecordQuery.Text

-- ---------------------------------------------------------------------------
-- Cutting at blanks
-- ---------------------------------------------------------------------------

theorem words_append (h : isBlank c = true) (first second : List Char) :
    words (first ++ c :: second) = words first ++ words second := by
  induction first with
  | nil => exact words_cons_blank h second
  | cons x first ih =>
    cases hx : isBlank x with
    | true => rw [List.cons_append, words_cons_blank hx, words_cons_blank hx, ih]
    | false =>
      cases first with
      | nil =>
        have hs : startsBlank (c :: second) = true := h
        rw [List.singleton_append, words_cons_end hx (.inr hs), words_cons_end hx (.inl rfl),
          words_cons_blank h]
        rfl
      | cons d first =>
        cases hd : isBlank d with
        | true =>
          have hs (rest : List Char) : startsBlank (d :: rest) = true := hd
          rw [List.cons_append, List.cons_append, words_cons_end hx (.inr (hs _)),
            words_cons_end hx (.inr (hs _)), ← List.cons_append, ih]
          rfl
        | false =>
          obtain ⟨word, more, hw, hf⟩ := words_cons_inner hx hd first
          obtain ⟨other, others, ho, hs⟩ := words_cons_inner hx hd (first ++ c :: second)
          rw [List.cons_append, ho, hw] at ih
          obtain ⟨rfl, rfl⟩ := List.cons.inj ih
          rw [List.cons_append, List.cons_append, hs, hf]
          rfl

theorem words_unbroken {word : List Char} (hn : word ≠ []) (h : ∀ c ∈ word, isBlank c = false) :
    words word = [word] := by
  induction word with
  | nil => exact absurd rfl hn
  | cons c rest ih =>
    obtain ⟨hc, hr⟩ := List.forall_mem_cons.mp h
    cases rest with
    | nil => rw [words_cons_end hc (.inl rfl), words]
    | cons d rest =>
      obtain ⟨word, more, hw, he⟩ := words_cons_inner hc (hr d List.mem_cons_self) rest
      rw [ih (List.cons_ne_nil d rest) hr] at hw
      obtain ⟨rfl, rfl⟩ := List.cons.inj hw
      exact he

/-- A text is followed from blank to blank. -/
theorem unbroken_induction {motive : List Char → Prop}
    (last : ∀ word, (∀ c ∈ word, isBlank c = false) → motive word)
    (next : ∀ word c rest, (∀ d ∈ word, isBlank d = false) → isBlank c = true → motive rest →
      motive (word ++ c :: rest))
    (text : List Char) : motive text := by
  -- The characters since the last blank are collected in front.
  suffices h : ∀ word : List Char, (∀ c ∈ word, isBlank c = false) → motive (word ++ text) from
    h [] fun _ hc => by cases hc
  induction text with
  | nil =>
    intro word hw
    rw [List.append_nil]
    exact last word hw
  | cons c rest ih =>
    intro word hw
    cases hc : isBlank c with
    | true => exact next word c rest hw hc (ih [] fun _ hd => by cases hd)
    | false =>
      rw [List.append_cons]
      refine ih (word ++ [c]) fun d hd => ?_
      rcases List.mem_append.mp hd with hd | hd
      · exact hw d hd
      · exact List.mem_singleton.mp hd ▸ hc

theorem mem_words {text word : List Char} (h : word ∈ words text) :
    word ≠ [] ∧ ∀ c ∈ word, isBlank c = false := by
  have hu {piece : List Char} (hp : ∀ c ∈ piece, isBlank c = false) (h : word ∈ words piece) :
      word ≠ [] ∧ ∀ c ∈ word, isBlank c = false := by
    cases piece with
    | nil => cases h
    | cons c piece =>
      rw [words_unbroken (List.cons_ne_nil c piece) hp, List.mem_singleton] at h
      exact h ▸ ⟨List.cons_ne_nil c piece, hp⟩
  induction text using unbroken_induction with
  | last piece hp => exact hu hp h
  | next piece c rest hp hc ih =>
    rw [words_append hc] at h
    exact (List.mem_append.mp h).elim (hu hp) ih

-- ---------------------------------------------------------------------------
-- Blanks that play no part
-- ---------------------------------------------------------------------------

theorem words_blank (h : isBlankText text = true) : words text = [] :=
  normalize_eq_nil (normalize_blank h)

theorem words_trimStart (text : List Char) : words (trimStart text) = words text := by
  induction text with
  | nil => rfl
  | cons c rest ih =>
    cases hc : isBlank c with
    | true => rw [trimStart_cons_blank hc, words_cons_blank hc, ih]
    | false => rw [trimStart_cons hc]

theorem exists_trimEnd (text : List Char) :
    ∃ blanks, isBlankText blanks = true ∧ text = trimEnd text ++ blanks := by
  induction text with
  | nil => exact ⟨[], rfl, rfl⟩
  | cons c rest ih =>
    obtain ⟨blanks, hb, hr⟩ := ih
    cases hc : isBlank c with
    | false => exact ⟨blanks, hb, by rw [trimEnd_cons hc, List.cons_append, ← hr]⟩
    | true =>
      rw [trimEnd]
      split
      · next ht =>
        rw [ht] at hr
        exact ⟨c :: blanks, Bool.and_eq_true_iff.mpr ⟨hc, hb⟩, by simp [hc, hr]⟩
      · exact ⟨blanks, hb, by rw [List.cons_append, ← hr]⟩

theorem words_trimEnd (text : List Char) : words (trimEnd text) = words text := by
  obtain ⟨blanks, hb, ht⟩ := exists_trimEnd text
  conv => rhs; rw [ht]
  cases blanks with
  | nil => rw [List.append_nil]
  | cons c blanks =>
    obtain ⟨hc, hr⟩ := Bool.and_eq_true_iff.mp hb
    rw [words_append hc, words_blank hr, List.append_nil]

@[simp] theorem words_trim (text : List Char) : words (trim text) = words text := by
  rw [trim, words_trimEnd, words_trimStart]

theorem words_intercalate {pieces : List (List Char)}
    (h : ∀ word ∈ pieces, word ≠ [] ∧ ∀ c ∈ word, isBlank c = false) :
    words ([' '].intercalate pieces) = pieces := by
  induction pieces with
  | nil => rfl
  | cons word pieces ih =>
    obtain ⟨⟨hn, hw⟩, hp⟩ := List.forall_mem_cons.mp h
    cases pieces with
    | nil =>
      rw [List.intercalate_singleton]
      exact words_unbroken hn hw
    | cons other pieces =>
      rw [List.intercalate_cons_cons, List.append_assoc, List.singleton_append, words_append rfl,
        ih hp, words_unbroken hn hw, List.singleton_append]

@[simp] theorem words_normalize (text : List Char) : words (normalize text) = words text :=
  words_intercalate fun _ => mem_words

end RecordQuery.Text
