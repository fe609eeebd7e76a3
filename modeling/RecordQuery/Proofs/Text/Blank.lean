import Mathlib.Data.List.Chain
import RecordQuery.Text.Blank

/-!
# Normalised text

Normalising is squeezing, which makes every run of blanks one space, and then
trimming. Squeezing works piece by piece around characters that are no
blanks, which the words of a text do not show. A neat text is its own
normal form.
-/

namespace RecordQuery.Text

-- ---------------------------------------------------------------------------
-- Squeezing
-- ---------------------------------------------------------------------------

def startsBlank : List Char → Bool
  | [] => false
  | c :: _ => isBlank c

/-- Every run of blanks becomes one space, also at the ends. -/
def squeeze : List Char → List Char
  | [] => []
  | c :: rest =>
    if isBlank c then
      if startsBlank rest then squeeze rest else ' ' :: squeeze rest
    else c :: squeeze rest

@[simp] theorem startsBlank_cons (c : Char) (rest : List Char) :
    startsBlank (c :: rest) = isBlank c := rfl

theorem squeeze_cons (h : isBlank c = false) (rest : List Char) :
    squeeze (c :: rest) = c :: squeeze rest := by
  simp [squeeze, h]

theorem startsBlank_append (h : isBlank c = false) (first second : List Char) :
    startsBlank (first ++ c :: second) = startsBlank first := by
  cases first with
  | nil => exact h
  | cons x first => rfl

theorem squeeze_append (h : isBlank c = false) (first second : List Char) :
    squeeze (first ++ c :: second) = squeeze first ++ c :: squeeze second := by
  induction first with
  | nil => exact squeeze_cons h second
  | cons x first ih =>
    rw [List.cons_append, squeeze, squeeze, startsBlank_append h, ih]
    split
    · split <;> rfl
    · rfl

theorem mem_squeeze (h : c ∈ squeeze text) : c = ' ' ∨ c ∈ text := by
  induction text with
  | nil => cases h
  | cons x rest ih =>
    have hr (h : c ∈ squeeze rest) : c = ' ' ∨ c ∈ x :: rest :=
      (ih h).imp_right (List.mem_cons_of_mem x)
    rw [squeeze] at h
    split at h
    · split at h
      · exact hr h
      · exact (List.mem_cons.mp h).elim .inl hr
    · exact (List.mem_cons.mp h).elim (fun hc => .inr (hc ▸ List.mem_cons_self)) hr

theorem length_squeeze_le (text : List Char) : (squeeze text).length ≤ text.length := by
  induction text with
  | nil => exact Nat.le_refl _
  | cons c rest ih =>
    rw [squeeze]
    split
    · split
      · exact Nat.le_succ_of_le ih
      · exact Nat.succ_le_succ ih
    · exact Nat.succ_le_succ ih

-- ---------------------------------------------------------------------------
-- Words
-- ---------------------------------------------------------------------------

theorem words_cons_blank (h : isBlank c = true) (rest : List Char) :
    words (c :: rest) = words rest := by
  simp [words, h]

theorem words_cons_end (h : isBlank c = false) (hb : rest = [] ∨ startsBlank rest = true) :
    words (c :: rest) = [c] :: words rest := by
  cases rest with
  | nil => simp [words, h]
  | cons d rest =>
    have hd : isBlank d = true := hb.resolve_left (List.cons_ne_nil d rest)
    simp [words, h, hd]

theorem words_ne_nil (h : isBlank c = false) (rest : List Char) : words (c :: rest) ≠ [] := by
  cases rest with
  | nil => simp [words, h]
  | cons d rest =>
    simp only [words, h, Bool.false_eq_true, ↓reduceIte]
    split
    · exact List.cons_ne_nil _ _
    · split <;> exact List.cons_ne_nil _ _

theorem words_cons_inner (h : isBlank c = false) (hd : isBlank d = false) (rest : List Char) :
    ∃ word more, words (d :: rest) = word :: more ∧
      words (c :: d :: rest) = (c :: word) :: more := by
  obtain ⟨word, more, hw⟩ := List.exists_cons_of_ne_nil (words_ne_nil hd rest)
  refine ⟨word, more, hw, ?_⟩
  rw [words.eq_def]
  simp only [h, hd, hw, Bool.false_eq_true, ↓reduceIte]

theorem normalize_cons_blank (h : isBlank c = true) (rest : List Char) :
    normalize (c :: rest) = normalize rest := by
  rw [normalize, words_cons_blank h, normalize]

theorem normalize_cons_inner (h : isBlank c = false) (hd : isBlank d = false)
    (rest : List Char) : normalize (c :: d :: rest) = c :: normalize (d :: rest) := by
  obtain ⟨word, more, hr, hw⟩ := words_cons_inner h hd rest
  rw [normalize, normalize, hw, hr]
  cases more <;> rfl

theorem normalize_cons_end (h : isBlank c = false) (hb : startsBlank rest = true) :
    normalize (c :: rest) = c :: if words rest = [] then [] else ' ' :: normalize rest := by
  rw [normalize, words_cons_end h (.inr hb), normalize]
  cases words rest with
  | nil => rfl
  | cons word more => rfl

theorem normalize_blank (h : isBlankText text = true) : normalize text = [] := by
  induction text with
  | nil => rfl
  | cons c rest ih =>
    obtain ⟨hc, hr⟩ := Bool.and_eq_true_iff.mp h
    rw [normalize_cons_blank hc, ih hr]

theorem normalize_eq_nil (h : normalize text = []) : words text = [] := by
  induction text with
  | nil => rfl
  | cons c rest ih =>
    cases hc : isBlank c with
    | true =>
      rw [normalize_cons_blank hc] at h
      rw [words_cons_blank hc, ih h]
    | false =>
      exfalso
      cases rest with
      | nil =>
        rw [normalize, words_cons_end hc (.inl rfl)] at h
        cases h
      | cons d rest =>
        cases hd : isBlank d with
        | true =>
          rw [normalize_cons_end hc (startsBlank_cons d rest ▸ hd)] at h
          cases h
        | false =>
          rw [normalize_cons_inner hc hd] at h
          cases h

-- ---------------------------------------------------------------------------
-- Normalising is squeezing and trimming
-- ---------------------------------------------------------------------------

theorem trimEnd_cons (h : isBlank c = false) (text : List Char) :
    trimEnd (c :: text) = c :: trimEnd text := by
  rw [trimEnd]
  split
  · next ht => simp [h, ht]
  · rfl

theorem trimEnd_squeeze (text : List Char) :
    trimEnd (squeeze text) =
      if startsBlank text = true ∧ words text ≠ [] then ' ' :: normalize text
      else normalize text := by
  induction text with
  | nil => rfl
  | cons c rest ih =>
    cases hc : isBlank c with
    | true =>
      rw [squeeze, if_pos hc, words_cons_blank hc, normalize_cons_blank hc, startsBlank_cons, hc]
      cases hb : startsBlank rest with
      | true =>
        rw [hb] at ih
        exact ih
      | false =>
        rw [if_neg (by simp), trimEnd, ih, hb, if_neg (by simp)]
        by_cases hw : words rest = []
        · have hn : normalize rest = [] := by rw [normalize, hw]; rfl
          simp [hw, hn, show isBlank ' ' = true from rfl]
        · simp only [ne_eq, hw, not_false_eq_true, and_self, ↓reduceIte]
          split
          · next hn => exact absurd (normalize_eq_nil hn) hw
          · rfl
    | false =>
      rw [if_neg (by simp [hc]), squeeze_cons hc, trimEnd_cons hc, ih]
      cases rest with
      | nil =>
        show [c] = normalize [c]
        rw [normalize, words_cons_end hc (.inl rfl)]
        rfl
      | cons d rest =>
        cases hd : isBlank d with
        | true =>
          rw [normalize_cons_end hc (startsBlank_cons d rest ▸ hd), startsBlank_cons, hd]
          by_cases hw : words (d :: rest) = []
          · have hn : normalize (d :: rest) = [] := by rw [normalize, hw]; rfl
            simp [hw, hn]
          · simp [hw]
        | false =>
          rw [normalize_cons_inner hc hd, startsBlank_cons, hd, if_neg (by simp)]

theorem trimStart_cons_blank (h : isBlank c = true) (text : List Char) :
    trimStart (c :: text) = trimStart text := by
  simp [trimStart, h]

theorem trimStart_cons (h : isBlank c = false) (text : List Char) :
    trimStart (c :: text) = c :: text := by
  simp [trimStart, h]

theorem normalize_eq (text : List Char) : normalize text = trim (squeeze text) := by
  induction text with
  | nil => rfl
  | cons c rest ih =>
    cases hc : isBlank c with
    | true =>
      rw [normalize_cons_blank hc, ih, squeeze, if_pos hc, trim, trim]
      split
      · rfl
      · rw [trimStart_cons_blank rfl]
    | false =>
      have he := trimEnd_squeeze (c :: rest)
      rw [if_neg (by simp [hc]), squeeze_cons hc] at he
      rw [squeeze_cons hc, trim, trimStart_cons hc, he]

theorem normalize_ne_nil (h : isBlankText text = false) : normalize text ≠ [] := by
  intro hn
  have hw := normalize_eq_nil hn
  clear hn
  induction text with
  | nil => cases h
  | cons c rest ih =>
    cases hc : isBlank c with
    | true =>
      rw [words_cons_blank hc] at hw
      exact ih (by simpa [isBlankText, hc] using h) hw
    | false => exact words_ne_nil hc rest hw

-- ---------------------------------------------------------------------------
-- Neat texts
-- ---------------------------------------------------------------------------

/-- The only blanks are spaces, and no two of them are neighbours. -/
structure SingleSpaced (text : List Char) : Prop where
  spaces : ∀ c ∈ text, isBlank c = true → c = ' '
  apart : text.IsChain fun c d => ¬ (isBlank c = true ∧ isBlank d = true)

/-- Single-spaced, and no blank stands at an end. -/
structure Neat (text : List Char) : Prop extends SingleSpaced text where
  begins : ∀ c ∈ text.head?, isBlank c = false
  ends : ∀ c ∈ text.getLast?, isBlank c = false

theorem squeeze_eq_self (h : SingleSpaced text) : squeeze text = text := by
  induction text with
  | nil => rfl
  | cons c rest ih =>
    have hr : SingleSpaced rest :=
      ⟨fun d hd => h.spaces d (List.mem_cons_of_mem _ hd), h.apart.tail⟩
    rw [squeeze, ih hr]
    split
    · next hc =>
      obtain rfl := h.spaces c (by simp) hc
      refine if_neg fun hb => ?_
      cases rest with
      | nil => cases hb
      | cons d rest => exact (List.isChain_cons_cons.mp h.apart).1 ⟨hc, hb⟩
    · rfl

theorem trimEnd_eq_self (h : ∀ c ∈ text.getLast?, isBlank c = false) : trimEnd text = text := by
  induction text with
  | nil => rfl
  | cons c rest ih =>
    cases rest with
    | nil => exact trimEnd_cons (h c (by simp)) []
    | cons d rest =>
      rw [trimEnd, ih fun e he => h e (by simpa using he)]

theorem trimEnd_prefix (text : List Char) : trimEnd text <+: text := by
  induction text with
  | nil => exact List.prefix_rfl
  | cons c rest ih =>
    rw [trimEnd]
    split
    · split
      · exact List.nil_prefix
      · exact List.cons_prefix_cons.mpr ⟨rfl, List.nil_prefix⟩
    · exact List.cons_prefix_cons.mpr ⟨rfl, ih⟩

theorem infix_trim (text : List Char) : trim text <:+: text := by
  have he : trim text <+: trimStart text := trimEnd_prefix _
  exact he.isInfix.trans (List.dropWhile_suffix _).isInfix

theorem trimStart_begins (text : List Char) : ∀ c ∈ (trimStart text).head?, isBlank c = false := by
  induction text with
  | nil => simp [trimStart]
  | cons c rest ih =>
    cases hc : isBlank c with
    | true =>
      rw [trimStart_cons_blank hc]
      exact ih
    | false =>
      intro d hd
      rw [trimStart_cons hc] at hd
      exact Option.some.inj hd ▸ hc

theorem trimEnd_ends (text : List Char) : ∀ c ∈ (trimEnd text).getLast?, isBlank c = false := by
  induction text with
  | nil => simp [trimEnd]
  | cons c rest ih =>
    intro d hd
    rw [trimEnd] at hd
    split at hd
    · split at hd
      · cases hd
      · next hc =>
        obtain rfl : c = d := by simpa using hd
        exact Bool.eq_false_iff.mpr hc
    · next hk =>
      rw [List.getLast?_cons_of_ne_nil hk] at hd
      exact ih d hd

theorem trimStart_append (h : isBlank c = false) (first second : List Char) :
    trimStart (first ++ c :: second) = trimStart first ++ c :: second := by
  induction first with
  | nil => exact trimStart_cons h second
  | cons x first ih =>
    cases hx : isBlank x with
    | true => rw [List.cons_append, trimStart_cons_blank hx, trimStart_cons_blank hx, ih]
    | false => rw [List.cons_append, trimStart_cons hx, trimStart_cons hx, List.cons_append]

theorem trimEnd_append (h : isBlank c = false) (first second : List Char) :
    trimEnd (first ++ c :: second) = first ++ c :: trimEnd second := by
  induction first with
  | nil => exact trimEnd_cons h second
  | cons x first ih =>
    rw [List.cons_append, trimEnd, ih]
    cases first <;> rfl

theorem trim_around (ho : isBlank left = false) (hc : isBlank right = false)
    (first text second : List Char) :
    trim (first ++ (left :: (text ++ [right]) ++ second)) =
      trimStart first ++ (left :: (text ++ [right]) ++ trimEnd second) := by
  have ha (tail : List Char) :
      left :: (text ++ [right]) ++ tail = left :: (text ++ right :: tail) := by
    simp
  rw [trim, ha, trimStart_append ho, ← List.cons_append, ← List.append_assoc, trimEnd_append hc,
    List.append_assoc, ha, List.cons_append]

theorem mem_trim (h : isBlank c = false) (hm : c ∈ text) : c ∈ trim text := by
  obtain ⟨first, second, rfl⟩ := List.append_of_mem hm
  rw [trim, trimStart_append h, trimEnd_append h]
  exact List.mem_append_right _ List.mem_cons_self

theorem mem_of_mem_trim (h : c ∈ trim text) : c ∈ text := by
  have hp := trimEnd_prefix (trimStart text)
  exact (List.dropWhile_suffix isBlank).mem (hp.mem h)

theorem mem_normalize_iff (h : isBlank c = false) : c ∈ normalize text ↔ c ∈ text := by
  rw [normalize_eq]
  constructor
  · intro hm
    refine (mem_squeeze (mem_of_mem_trim hm)).resolve_left ?_
    rintro rfl
    cases h
  · intro hm
    refine mem_trim h ?_
    obtain ⟨first, second, rfl⟩ := List.append_of_mem hm
    rw [squeeze_append h]
    exact List.mem_append_right _ List.mem_cons_self

theorem length_normalize_le (text : List Char) : (normalize text).length ≤ text.length := by
  rw [normalize_eq]
  exact Nat.le_trans (length_trim_le _) (length_squeeze_le _)

theorem trimStart_blank_append (h : isBlankText first = true) (second : List Char) :
    trimStart (first ++ second) = trimStart second :=
  List.dropWhile_append_of_pos (List.all_eq_true.mp h)

theorem trim_eq_nil_iff : trim text = [] ↔ isBlankText text = true := by
  constructor
  · intro h
    refine List.all_eq_true.mpr fun c hc => ?_
    cases hb : isBlank c with
    | true => rfl
    | false =>
      have hm := mem_trim hb hc
      rw [h] at hm
      cases hm
  · intro h
    have hs := trimStart_blank_append h []
    rw [List.append_nil] at hs
    rw [trim, hs]
    rfl

theorem trimEnd_blank (h : isBlankText text = true) : trimEnd text = [] := by
  induction text with
  | nil => rfl
  | cons c rest ih =>
    obtain ⟨hc, hr⟩ := Bool.and_eq_true_iff.mp h
    rw [trimEnd, ih hr]
    exact if_pos hc

theorem trimStart_eq_self (h : ∀ c ∈ text.head?, isBlank c = false) : trimStart text = text := by
  cases text with
  | nil => rfl
  | cons c rest => exact trimStart_cons (h c rfl) rest

theorem trim_eq_self (hf : ∀ c ∈ text.head?, isBlank c = false)
    (hl : ∀ c ∈ text.getLast?, isBlank c = false) : trim text = text := by
  rw [trim, trimStart_eq_self hf, trimEnd_eq_self hl]

theorem trim_enclosed (ho : isBlank left = false) (hc : isBlank right = false)
    (text : List Char) : trim (left :: (text ++ [right])) = left :: (text ++ [right]) := by
  refine trim_eq_self (fun c hm => ?_) fun c hm => ?_
  · obtain rfl : left = c := by simpa using hm
    exact ho
  · rw [← List.cons_append, List.getLast?_concat] at hm
    obtain rfl : right = c := by simpa using hm
    exact hc

theorem Neat.trim (h : Neat text) : trim text = text := trim_eq_self h.begins h.ends

theorem Neat.normalize (h : Neat text) : normalize text = text := by
  rw [normalize_eq, squeeze_eq_self h.toSingleSpaced, h.trim]

theorem Neat.of_no_blank (h : ∀ c ∈ text, isBlank c = false) : Neat text where
  spaces c hc hb := absurd hb (by simp [h c hc])
  apart := (List.pairwise_of_forall_mem_list fun c hc d _ hb => by simp [h c hc] at hb).isChain
  begins c hc := h c (List.mem_of_mem_head? hc)
  ends c hc := h c (List.mem_of_mem_getLast? hc)

theorem Neat.of_all (h : text.all (fun c => !isBlank c) = true) : Neat text :=
  .of_no_blank (by simpa using h)

theorem Neat.append (ha : Neat first) (hb : Neat second) : Neat (first ++ second) where
  spaces c hc := (List.mem_append.mp hc).elim (ha.spaces c) (hb.spaces c)
  apart := ha.apart.append hb.apart fun c hc d _ h => by simp [ha.ends c hc] at h
  begins c hc := by
    cases first with
    | nil => exact hb.begins c hc
    | cons x first => exact ha.begins c hc
  ends c hc := by
    rw [List.getLast?_append] at hc
    cases hs : second.getLast? with
    | none => exact ha.ends c (by simpa [hs] using hc)
    | some d => exact hb.ends c (by simpa [hs] using hc)

theorem Neat.join (ha : Neat first) (hb : Neat second) (hf : first ≠ []) (hs : second ≠ []) :
    Neat (first ++ ' ' :: second) where
  spaces c hc := by
    rcases List.mem_append.mp hc with hc | hc
    · exact ha.spaces c hc
    · rcases List.mem_cons.mp hc with rfl | hc
      · exact fun _ => rfl
      · exact hb.spaces c hc
  apart := by
    refine ha.apart.append (List.IsChain.cons hb.apart fun d hd h => ?_) fun c hc d _ h => ?_
    · simp [hb.begins d hd] at h
    · simp [ha.ends c hc] at h
  begins c hc := by
    rw [List.head?_append_of_ne_nil _ hf] at hc
    exact ha.begins c hc
  ends c hc := by
    rw [List.getLast?_append_of_ne_nil _ (List.cons_ne_nil _ _)] at hc
    cases second with
    | nil => exact absurd rfl hs
    | cons x second => exact hb.ends c (by simpa using hc)

theorem SingleSpaced.of_infix {part : List Char} (h : SingleSpaced text) (hp : part <:+: text) :
    SingleSpaced part where
  spaces c hc := h.spaces c (hp.subset hc)
  apart := h.apart.infix hp

theorem SingleSpaced.neat_trim (h : SingleSpaced text) : Neat (RecordQuery.Text.trim text) where
  toSingleSpaced := h.of_infix (infix_trim text)
  begins c hc := by
    obtain ⟨rest, hr⟩ := trimEnd_prefix (trimStart text)
    refine trimStart_begins text c ?_
    rw [← hr]
    exact List.mem_head?_append_of_mem_head? hc
  ends := trimEnd_ends (trimStart text)

theorem Neat.of_join (h : Neat (first ++ ' ' :: second)) :
    (Neat first ∧ first ≠ []) ∧ Neat second ∧ second ≠ [] := by
  have hf : first <:+: first ++ ' ' :: second := (List.prefix_append _ _).isInfix
  have hs : second <:+: first ++ ' ' :: second :=
    ((List.suffix_cons ' ' second).trans (List.suffix_append _ _)).isInfix
  obtain ⟨-, ha, hl⟩ := List.isChain_append.mp h.apart
  have hb : isBlank ' ' = true := rfl
  have hfn : first ≠ [] := by
    rintro rfl
    cases h.begins ' ' rfl
  have hsn : second ≠ [] := by
    rintro rfl
    cases h.ends ' ' List.getLast?_concat
  refine ⟨⟨⟨h.of_infix hf, fun c hc => ?_, fun c hc => ?_⟩, hfn⟩,
    ⟨⟨h.of_infix hs, fun c hc => ?_, fun c hc => ?_⟩, hsn⟩⟩
  · exact h.begins c (List.mem_head?_append_of_mem_head? hc)
  · exact Bool.eq_false_iff.mpr fun hcb => hl c hc ' ' rfl ⟨hcb, hb⟩
  · cases second with
    | nil => cases hc
    | cons d second =>
      obtain rfl := Option.some.inj hc
      exact Bool.eq_false_iff.mpr fun hcb => (List.isChain_cons_cons.mp ha).1 ⟨hb, hcb⟩
  · refine h.ends c ?_
    rw [List.getLast?_append_of_ne_nil _ (List.cons_ne_nil _ _),
      List.getLast?_cons_of_ne_nil hsn]
    exact hc

theorem neat_normalize (text : List Char) : Neat (normalize text) := by
  induction text with
  | nil => exact .of_no_blank fun c hc => by cases hc
  | cons c rest ih =>
    cases hc : isBlank c with
    | true =>
      rw [normalize_cons_blank hc]
      exact ih
    | false =>
      have hn : Neat [c] := .of_no_blank (by simpa using hc)
      cases rest with
      | nil =>
        rw [normalize, words_cons_end hc (.inl rfl)]
        exact hn
      | cons d rest =>
        cases hd : isBlank d with
        | false =>
          rw [normalize_cons_inner hc hd]
          exact hn.append ih
        | true =>
          rw [normalize_cons_end hc (startsBlank_cons d rest ▸ hd)]
          split
          · exact hn
          · next hw =>
            exact hn.join ih (List.cons_ne_nil _ _) fun he => hw (normalize_eq_nil he)

@[simp] theorem normalize_normalize (text : List Char) :
    normalize (normalize text) = normalize text := (neat_normalize text).normalize

theorem Neat.enclosed (h : SingleSpaced text) (ho : isBlank left = false)
    (hc : isBlank right = false) : Neat (left :: (text ++ [right])) where
  spaces c hm := by
    simp only [List.mem_cons, List.mem_append, List.not_mem_nil, or_false] at hm
    rcases hm with rfl | hm | rfl
    · simp [ho]
    · exact h.spaces c hm
    · simp [hc]
  apart := by
    refine List.IsChain.cons (h.apart.append (List.isChain_singleton right) ?_) fun d _ hb => ?_
    · intro c _ d hd hb
      obtain rfl : right = d := by simpa using hd
      simp [hc] at hb
    · simp [ho] at hb
  begins c hm := by
    obtain rfl : left = c := by simpa using hm
    exact ho
  ends c hm := by
    rw [← List.cons_append, List.getLast?_concat] at hm
    obtain rfl : right = c := by simpa using hm
    exact hc

end RecordQuery.Text
