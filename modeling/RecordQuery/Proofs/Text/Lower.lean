import RecordQuery.Proofs.Text.Word
import RecordQuery.Proofs.Text.Words

/-!
# Lower case inside a text

One letter alone looks at its surroundings: a capital sigma takes its final
form where a letter stands before it and none behind it. So a piece of a text
has the lower case that it has by itself exactly if none of its capital sigmas
changes form in its place. No sigma looks past a blank, which is why the words
of the lower case are the words in lower case.
-/

namespace RecordQuery.Text

variable {text first second before after : List Char}

-- ---------------------------------------------------------------------------
-- Blanks
-- ---------------------------------------------------------------------------

theorem has_eq_false {ranges : Ranges}
    (ha : ∀ range ∈ blankRanges, ∀ other ∈ ranges, range.2 < other.1 ∨ other.2 < range.1)
    (h : isBlank c = true) : ranges.has c = false := by
  refine Bool.eq_false_iff.mpr fun hc => ?_
  obtain ⟨range, hm, hl, hu⟩ := (Ranges.has_iff blankRanges c).mp h
  obtain ⟨other, ho, hlo, huo⟩ := (Ranges.has_iff ranges c).mp hc
  have := ha range hm other ho
  omega

theorem isCaseIgnorable_of_isBlank (h : isBlank c = true) : isCaseIgnorable c = false :=
  has_eq_false (by decide +kernel) h

theorem isCased_of_isBlank (h : isBlank c = true) : isCased c = false :=
  has_eq_false (by decide +kernel) h

theorem toLower_ascii (h : isAscii c = true) :
    isBlank c.toLower = isBlank c ∧ (isBlank c = true → c.toLower = c) := by
  have hn : ∀ n < 128, isBlank (Char.ofNat n).toLower = isBlank (Char.ofNat n) ∧
      (isBlank (Char.ofNat n) = true → (Char.ofNat n).toLower = Char.ofNat n) := by
    decide +kernel
  rw [← Char.ofNat_toNat c]
  exact hn c.toNat (of_decide_eq_true h)

theorem isBlank_ofNat {n : Nat} (h : ∀ range ∈ blankRanges, n < range.1 ∨ range.2 < n) :
    isBlank (Char.ofNat n) = false := by
  by_cases hv : n.isValidChar
  · have hc : Char.ofNat n = Char.ofNatAux n hv := dif_pos hv
    refine Bool.eq_false_iff.mpr fun hb => ?_
    obtain ⟨range, hm, hl, hu⟩ := (Ranges.has_iff blankRanges _).mp hb
    rw [hc, show (Char.ofNatAux n hv).toNat = n from rfl] at hl hu
    have := h range hm
    omega
  · have hc : Char.ofNat n = '\x00' := dif_neg hv
    rw [hc]
    rfl

theorem lowerTable_apart : ∀ stretch ∈ lowerTable, ∀ range ∈ blankRanges,
    (range.2 < stretch.first ∨ stretch.last < range.1) ∧
      (range.2 < stretch.image ∨ stretch.image + (stretch.last - stretch.first) < range.1) := by
  decide +kernel

theorem caseImage_cases (table : List CaseStretch) (n : Nat) :
    caseImage table n = n ∨ ∃ stretch ∈ table, stretch.first ≤ n ∧ n ≤ stretch.last ∧
      caseImage table n = stretch.image + (n - stretch.first) := by
  rw [caseImage]
  split
  · exact .inl rfl
  · next stretch hs =>
    have hh := List.find?_some hs
    simp only [CaseStretch.has, Bool.and_eq_true, decide_eq_true_eq] at hh
    exact .inr ⟨stretch, List.mem_of_find?_eq_some hs, hh.1.1, hh.1.2, rfl⟩

theorem isBlank_caseImage (c : Char) :
    isBlank (Char.ofNat (caseImage lowerTable c.toNat)) = isBlank c := by
  rcases caseImage_cases lowerTable c.toNat with he | ⟨stretch, hs, hf, hl, he⟩
  · rw [he, Char.ofNat_toNat]
  · have ha := lowerTable_apart stretch hs
    have hc : isBlank c = false := by
      rw [← Char.ofNat_toNat c]
      refine isBlank_ofNat fun range hr => ?_
      have := ha range hr
      omega
    rw [hc, he]
    refine isBlank_ofNat fun range hr => ?_
    have := ha range hr
    omega

theorem lowerChar_of_isBlank (h : isBlank c = true) : lowerChar c = [c] := by
  rw [lowerChar]
  split
  · next ha => rw [(toLower_ascii ha).2 h]
  · split
    · next hc =>
      rw [beq_iff_eq.mp hc] at h
      cases h
    · rcases caseImage_cases lowerTable c.toNat with he | ⟨stretch, hs, hf, hl, -⟩
      · rw [he, Char.ofNat_toNat]
      · obtain ⟨range, hm, hlo, hup⟩ := (Ranges.has_iff blankRanges c).mp h
        have := lowerTable_apart stretch hs range hm
        omega

theorem isBlank_of_mem_lowerChar (h : isBlank c = false) (hd : d ∈ lowerChar c) :
    isBlank d = false := by
  rw [lowerChar] at hd
  split at hd
  · next ha =>
    rw [List.mem_singleton.mp hd, (toLower_ascii ha).1, h]
  · split at hd
    · have hn : ['i', '\u0307'].all (fun c => !isBlank c) = true := rfl
      simpa using List.all_eq_true.mp hn d hd
    · rw [List.mem_singleton.mp hd, isBlank_caseImage, h]

-- ---------------------------------------------------------------------------
-- Surroundings
-- ---------------------------------------------------------------------------

/-- Whether a capital sigma takes its final form between two texts. -/
def isFinal (before after : List Char) : Bool := startsCased before.reverse && !startsCased after

def lowerBetween (before after : List Char) (c : Char) : List Char :=
  if c == 'Σ' then [if isFinal before after then 'ς' else 'σ'] else lowerChar c

/-- Lower case of a text in its place between two others. -/
def lowerAmid (before after : List Char) : List Char → List Char
  | [] => []
  | c :: rest => lowerBetween before (rest ++ after) c ++ lowerAmid (before ++ [c]) after rest

theorem lowerFrom_eq (before text : List Char) :
    lowerFrom (startsCased before.reverse) text = lowerAmid before [] text := by
  induction text generalizing before with
  | nil => rfl
  | cons c rest ih =>
    have hn : (if isCaseIgnorable c then startsCased before.reverse else isCased c) =
        startsCased (before ++ [c]).reverse := by
      rw [List.reverse_append]
      rfl
    simp only [lowerFrom, lowerAmid, lowerBetween, hn, ih, List.append_nil]
    split
    · rfl
    · rfl

theorem lower_eq (text : List Char) : lower text = lowerAmid [] [] text := lowerFrom_eq [] text

theorem lowerAmid_append (before after first second : List Char) :
    lowerAmid before after (first ++ second) =
      lowerAmid before (second ++ after) first ++ lowerAmid (before ++ first) after second := by
  induction first generalizing before with
  | nil => rw [List.append_nil]; rfl
  | cons c first ih =>
    simp only [List.cons_append, lowerAmid, ih, List.append_assoc, List.nil_append]

theorem lowerBetween_eq_iff {otherBefore otherAfter : List Char} :
    lowerBetween before after c = lowerBetween otherBefore otherAfter c ↔
      (c = 'Σ' → isFinal before after = isFinal otherBefore otherAfter) := by
  rw [lowerBetween, lowerBetween]
  by_cases hc : c = 'Σ'
  · subst hc
    cases isFinal before after <;> cases isFinal otherBefore otherAfter <;> simp
  · simp [hc]

theorem length_lowerBetween (before after otherBefore otherAfter : List Char) (c : Char) :
    (lowerBetween before after c).length = (lowerBetween otherBefore otherAfter c).length := by
  rw [lowerBetween, lowerBetween]
  split <;> rfl

/-- A text has the same lower case in two places exactly if each of its
capital sigmas is final in both or in none. -/
theorem lowerAmid_eq_iff {otherBefore otherAfter : List Char} :
    lowerAmid before after text = lowerAmid otherBefore otherAfter text ↔
      ∀ first second, text = first ++ 'Σ' :: second →
        isFinal (before ++ first) (second ++ after) =
          isFinal (otherBefore ++ first) (second ++ otherAfter) := by
  induction text generalizing before otherBefore with
  | nil =>
    refine iff_of_true rfl fun first second he => ?_
    simp at he
  | cons c rest ih =>
    -- The first letter becomes as many in both places, so the two agree part by part.
    have hs : lowerAmid before after (c :: rest) = lowerAmid otherBefore otherAfter (c :: rest) ↔
        lowerBetween before (rest ++ after) c = lowerBetween otherBefore (rest ++ otherAfter) c ∧
          lowerAmid (before ++ [c]) after rest = lowerAmid (otherBefore ++ [c]) otherAfter rest :=
      ⟨fun h => List.append_inj h (length_lowerBetween ..), fun h => congrArg₂ _ h.1 h.2⟩
    rw [hs, lowerBetween_eq_iff, ih]
    constructor
    · rintro ⟨hc, hr⟩ first second he
      rcases List.cons_eq_append_iff.mp he with ⟨rfl, ht⟩ | ⟨first, rfl, ht⟩
      · obtain ⟨rfl, rfl⟩ := List.cons.inj ht
        simpa using hc rfl
      · simpa using hr first second ht
    · refine fun h => ⟨?_, fun first second he => ?_⟩
      · rintro rfl
        simpa using h [] rest rfl
      · subst he
        simpa using h (c :: first) second rfl

theorem length_lowerAmid (before after otherBefore otherAfter text : List Char) :
    (lowerAmid before after text).length = (lowerAmid otherBefore otherAfter text).length := by
  induction text generalizing before otherBefore with
  | nil => rfl
  | cons c rest ih =>
    rw [lowerAmid, lowerAmid, List.length_append, List.length_append,
      length_lowerBetween before (rest ++ after) otherBefore (rest ++ otherAfter), ih]

/-- Each capital sigma of a text takes the form between two others that it
takes by itself. -/
def KeepsSigmas (before text after : List Char) : Prop :=
  ∀ first second, text = first ++ 'Σ' :: second →
    isFinal (before ++ first) (second ++ after) = isFinal first second

theorem keepsSigmas_of_notMem (h : 'Σ' ∉ text) : KeepsSigmas before text after := by
  rintro first second rfl
  exact absurd (List.mem_append_right first List.mem_cons_self) h

/-- In the lower case of a text a piece of it stands in its own lower case, at
its own place, exactly if its sigmas keep their form there. -/
theorem lower_isPrefix_drop_iff :
    lower text <+: (lower (before ++ text ++ after)).drop (lower before).length ↔
      KeepsSigmas before text after := by
  have hw : lower (before ++ text ++ after) = lowerAmid [] (text ++ after) before ++
      (lowerAmid before after text ++ lowerAmid (before ++ text) [] after) := by
    rw [lower_eq, List.append_assoc, lowerAmid_append, lowerAmid_append]
    simp only [List.append_nil, List.nil_append]
  have hl : (lower before).length = (lowerAmid [] (text ++ after) before).length := by
    rw [lower_eq]
    exact length_lowerAmid ..
  have hp : lower text = lowerAmid before after text ↔ KeepsSigmas before text after := by
    rw [eq_comm, lower_eq, lowerAmid_eq_iff]
    simp only [List.nil_append, List.append_nil, KeepsSigmas]
  rw [hw, hl, List.drop_left, ← hp]
  constructor
  · rintro ⟨rest, he⟩
    refine (List.append_inj he ?_).1
    rw [lower_eq]
    exact length_lowerAmid ..
  · rintro he
    exact he ▸ List.prefix_append ..

theorem lower_isInfix (h : KeepsSigmas before text after) :
    lower text <:+: lower (before ++ text ++ after) :=
  (lower_isPrefix_drop_iff.mpr h).isInfix.trans (List.drop_suffix ..).isInfix

-- ---------------------------------------------------------------------------
-- Words
-- ---------------------------------------------------------------------------

theorem startsCased_append (h : isBlank c = true) (first second : List Char) :
    startsCased (first ++ c :: second) = startsCased first := by
  induction first with
  | nil =>
    show (if isCaseIgnorable c then startsCased second else isCased c) = false
    rw [isCaseIgnorable_of_isBlank h, isCased_of_isBlank h]
    rfl
  | cons x first ih => rw [List.cons_append, startsCased, startsCased, ih]

theorem isFinal_blank_left (h : isBlank c = true) (first before after : List Char) :
    isFinal (first ++ c :: before) after = isFinal before after := by
  rw [isFinal, isFinal, List.reverse_append, List.reverse_cons, List.append_assoc,
    List.singleton_append, startsCased_append h]

theorem isFinal_blank_right (h : isBlank c = true) (before after second : List Char) :
    isFinal before (after ++ c :: second) = isFinal before after := by
  rw [isFinal, isFinal, startsCased_append h]

theorem lower_append (h : isBlank c = true) (first second : List Char) :
    lower (first ++ c :: second) = lower first ++ c :: lower second := by
  -- No sigma before the blank looks past it, and none behind it either.
  have hf : lowerAmid [] (c :: second) first = lower first := by
    rw [lower_eq, lowerAmid_eq_iff]
    intro left right _
    simpa using isFinal_blank_right h left right second
  have hs : lowerAmid (first ++ [c]) [] second = lower second := by
    rw [lower_eq, lowerAmid_eq_iff]
    intro left right _
    simpa using isFinal_blank_left h first left right
  have hc : c ≠ 'Σ' := by
    rintro rfl
    cases h
  rw [lower_eq, lowerAmid_append, List.append_nil, List.nil_append, hf, lowerAmid, lowerBetween,
    if_neg (by simpa using hc), lowerChar_of_isBlank h, hs, List.singleton_append]

theorem isBlank_of_mem_lower (h : ∀ c ∈ text, isBlank c = false) :
    ∀ c ∈ lower text, isBlank c = false := by
  suffices hs : ∀ before, ∀ d ∈ lowerAmid before [] text, isBlank d = false from
    lower_eq text ▸ hs []
  induction text with
  | nil => exact fun _ _ hd => by cases hd
  | cons c rest ih =>
    obtain ⟨hc, hr⟩ := List.forall_mem_cons.mp h
    intro before d hd
    rcases List.mem_append.mp hd with hd | hd
    · rw [lowerBetween] at hd
      split at hd
      · rw [List.mem_singleton.mp hd]
        split <;> rfl
      · exact isBlank_of_mem_lowerChar hc hd
    · exact ih hr (before ++ [c]) d hd

theorem lower_ne_nil (h : text ≠ []) : lower text ≠ [] := by
  intro hl
  have hn := length_le_length_lower text
  rw [hl] at hn
  exact h (List.length_eq_zero_iff.mp (Nat.le_zero.mp hn))

theorem words_lower (text : List Char) : words (lower text) = (words text).map lower := by
  have hu {word : List Char} (h : ∀ c ∈ word, isBlank c = false) :
      words (lower word) = (words word).map lower := by
    by_cases hn : word = []
    · subst hn
      rfl
    · rw [words_unbroken hn h, words_unbroken (lower_ne_nil hn) (isBlank_of_mem_lower h)]
      rfl
  induction text using unbroken_induction with
  | last word h => exact hu h
  | next word c rest h hc ih =>
    rw [lower_append hc, words_append hc, words_append hc, hu h, ih, List.map_append]

end RecordQuery.Text
