import RecordQuery.Proofs.Attempt
import RecordQuery.Proofs.Query.Comparison

/-!
# Overlong integers

Reading a leaf can fail at one thing only: a comparison with an integer of
more digits than are read. Any other text that is neither a literal nor a
condition is kept as it was written, and fails once it is evaluated.
-/

namespace RecordQuery

open Nesting (Flat)

variable {written : List Char} {count : Nat} {failure : Failure}

-- ---------------------------------------------------------------------------
-- Overlong integers
-- ---------------------------------------------------------------------------

/-- A comparison of a field with an integer of more digits than are read. -/
inductive Overlong (written : List Char) : Nat → Prop
  | intro {field second third sign digits : List Char} (comparison : Grammar.Comparison)
      (nonempty : field ≠ []) (isWord : ∀ c ∈ field, Text.isWord c = true)
      (before : Text.isBlankText second = true) (after : Text.isBlankText third = true)
      (signed : Numeral.IsSign sign) (decimal : ∀ c ∈ digits, Text.isDecimal c = true)
      (many : Numeral.maxDigits < digits.length)
      (text : Text.trim written =
        field ++ (second ++ (comparison.operator.name.toList ++ (third ++ (sign ++ digits))))) :
      Overlong written digits.length

theorem Overlong.lt_count (h : Overlong written count) : Numeral.maxDigits < count := by
  cases h
  assumption

theorem Overlong.count_le (h : Overlong written count) : count ≤ (Text.trim written).length := by
  cases h with
  | intro comparison _ _ _ _ _ _ _ text =>
    rw [text]
    simp only [List.length_append]
    omega

section
variable {sign digits literal : List Char}

theorem signed_all (p : Char → Bool) (hp : p '+' = true) (hm : p '-' = true)
    (hd : ∀ c, Text.isDecimal c = true → p c = true) (hs : Numeral.IsSign sign)
    (h : ∀ c ∈ digits, Text.isDecimal c = true) : ∀ c ∈ sign ++ digits, p c = true := by
  intro c hc
  rcases List.mem_append.mp hc with hc | hc
  · rcases hs with rfl | rfl | rfl
    · cases hc
    · exact List.mem_singleton.mp hc ▸ hp
    · exact List.mem_singleton.mp hc ▸ hm
  · exact hd c (h c hc)

theorem signed_not_blank (hs : Numeral.IsSign sign) (h : ∀ c ∈ digits, Text.isDecimal c = true) :
    ∀ c ∈ sign ++ digits, Text.isBlank c = false := by
  have hb : ∀ c ∈ sign ++ digits, (!Text.isBlank c) = true := by
    refine signed_all (fun c => !Text.isBlank c) rfl rfl (fun c hc => ?_) hs h
    rw [Text.isBlank_of_isDecimal hc]
    rfl
  exact fun c hc => (Bool.not_eq_true _).mp (by simpa using hb c hc)

theorem signed_plain (hs : Numeral.IsSign sign) (h : ∀ c ∈ digits, Text.isDecimal c = true) :
    ∀ c ∈ sign ++ digits, Nesting.isPlain c = true :=
  signed_all Nesting.isPlain rfl rfl
    (fun _ hc => Nesting.isPlain_of Text.isDecimal hc rfl rfl rfl) hs h

theorem beq_eq_false_of_length {first second : List Char} (h : second.length < first.length) :
    (first == second) = false := by
  refine beq_false_of_ne ?_
  rintro rfl
  exact Nat.lt_irrefl _ h

theorem lower_beq_eq_false {text : List Char} (h : Numeral.maxDigits < text.length)
    (keyword : List Char) (hk : keyword.length < Numeral.maxDigits) :
    (Text.lower text == keyword) = false :=
  beq_eq_false_of_length
    (Nat.lt_of_lt_of_le (Nat.lt_trans hk h) (Text.length_le_length_lower text))

namespace Value

theorem parseLiteral_overlong (hs : Numeral.IsSign sign)
    (h : ∀ c ∈ digits, Text.isDecimal c = true) (hm : Numeral.maxDigits < digits.length) :
    parseLiteral (sign ++ digits) = .error (.tooManyDigits digits.length) := by
  have hl : Numeral.maxDigits < (sign ++ digits).length := by
    rw [List.length_append]
    omega
  have ht : Text.trim (sign ++ digits) = sign ++ digits :=
    (Text.Neat.of_no_blank (signed_not_blank hs h)).trim
  have hq : '"' ∉ sign ++ digits := fun hq => absurd (signed_plain hs h _ hq) (by decide)
  have hn : digits ≠ [] := by
    rintro rfl
    cases hm
  obtain ⟨numeral, hn, hi, hw⟩ := Numeral.ofText?_signed hs hn h
  have hnull : (sign ++ digits == "NULL".toList) = false :=
    beq_eq_false_of_length (Nat.lt_trans (by decide) hl)
  simp only [parseLiteral, ht, unquoted?_eq_none hq, hnull,
    lower_beq_eq_false hl "true".toList (by decide),
    lower_beq_eq_false hl "false".toList (by decide), hn, Bool.false_eq_true, ↓reduceIte]
  rw [ofNumeral, if_pos hi, hw, if_pos hm]

theorem signed_of_parseLiteral (ht : Text.trim literal = literal)
    (h : parseLiteral literal = .error failure) :
    ∃ sign digits, Numeral.IsSign sign ∧ literal = sign ++ digits ∧
      (∀ c ∈ digits, Text.isDecimal c = true) ∧ Numeral.maxDigits < digits.length ∧
      failure = .tooManyDigits digits.length := by
  simp only [parseLiteral, ht] at h
  split at h
  · cases h
  · split at h
    · cases h
    · split at h
      · cases h
      · split at h
        · cases h
        · split at h
          · next numeral hn =>
            unfold ofNumeral at h
            split at h
            · next hi =>
              obtain ⟨sign, digits, hs, he, hd, hl⟩ := Numeral.signed_of_ofText? hn hi
              split at h
              · next hm =>
                cases h
                exact ⟨sign, digits, hs, he, hd, hl ▸ hm, by rw [hl]⟩
              · cases h
            · split at h <;> cases h
          · cases h

end Value

end

-- ---------------------------------------------------------------------------
-- Leaves
-- ---------------------------------------------------------------------------

theorem Overlong.plain (h : Overlong written count) :
    ∀ c ∈ Text.trim written, Nesting.isPlain c = true := by
  obtain ⟨comparison, hn, hw, hb, ha, hs, hd, hm, ht⟩ := h
  have ho : ∀ c ∈ comparison.operator.name.toList, Nesting.isPlain c = true := by
    cases comparison <;> exact List.all_eq_true.mp rfl
  intro c hc
  rw [ht] at hc
  rcases List.mem_append.mp hc with hc | hc
  · exact Nesting.isPlain_of Text.isWord (hw c hc) rfl rfl rfl
  rcases List.mem_append.mp hc with hc | hc
  · exact Nesting.isPlain_of_isBlank (List.all_eq_true.mp hb c hc)
  rcases List.mem_append.mp hc with hc | hc
  · exact ho c hc
  rcases List.mem_append.mp hc with hc | hc
  · exact Nesting.isPlain_of_isBlank (List.all_eq_true.mp ha c hc)
  · exact signed_plain hs hd c hc

theorem Overlong.quote_not_mem (h : Overlong written count) : '"' ∉ written := by
  intro hq
  have hp := h.plain '"' (Text.mem_trim rfl hq)
  cases hp

theorem Overlong.read? (h : Overlong written count) :
    Condition.read? written = .error (.tooManyDigits count) := by
  obtain @⟨field, second, third, sign, digits, comparison, hn, hw, hb, ha, hs, hd, hm, ht⟩ := h
  have hne : sign ++ digits ≠ [] := by
    intro he
    rw [(List.append_eq_nil_iff.mp he).2] at hm
    cases hm
  have hl : '\n' ∉ sign ++ digits := fun hl => absurd (signed_not_blank hs hd _ hl) (by decide)
  have hc := Grammar.comparison?_comparison comparison hn hw hb ha hne
    (fun c hc => signed_not_blank hs hd c (List.mem_of_mem_head? hc)) hl
  simp only [Condition.read?, ht, hc, Grammar.membership?_comparison comparison hn hw hb,
    Value.parseLiteral_overlong hs hd hm]
  rfl

theorem Overlong.read (h : Overlong written count) :
    Leaf.read written = .error (.tooManyDigits count) := by
  have hr := h.read?
  have hf : Flat (Text.trim written) := .plain h.plain
  have hl := Nat.lt_of_lt_of_le h.lt_count h.count_le
  simp only [Leaf.read, lower_beq_eq_false hl "true".toList (by decide),
    lower_beq_eq_false hl "false".toList (by decide), hf.noGroups, hr, Bool.false_eq_true,
    ↓reduceIte]
  rfl

theorem Condition.overlong_of_read? (h : Condition.read? written = .error failure) :
    ∃ count, Overlong written count ∧ failure = .tooManyDigits count := by
  unfold read? at h
  dsimp only at h
  split at h
  · cases h
  · split at h
    · cases h
    · next field operator literal hc =>
      obtain ⟨name, second, third, comparison, hn, hw, hb, ha, hne, hf, ht⟩ :=
        eq_of_comparison? hc
      -- The literal ends where the trimmed text does.
      have hg : ∀ c ∈ literal.getLast?, Text.isBlank c = false := by
        intro c hc
        refine Text.trimEnd_ends (Text.trimStart written) c ?_
        show c ∈ (Text.trim written).getLast?
        rw [ht]
        simp only [← List.append_assoc, List.getLast?_append_of_ne_nil _ hne]
        exact hc
      have hv : Value.parseLiteral literal = .error failure := by
        cases hp : Value.parseLiteral literal with
        | ok value =>
          rw [hp] at h
          cases h
        | error cause =>
          rw [hp] at h
          cases h
          rfl
      obtain ⟨sign, digits, hs, rfl, hd, hm, rfl⟩ :=
        Value.signed_of_parseLiteral (Text.trim_eq_self hf hg) hv
      exact ⟨_, .intro comparison hn hw hb ha hs hd hm ht, rfl⟩

theorem Leaf.overlong_of_read (h : Leaf.read written = .error failure) :
    ∃ count, Overlong written count ∧ failure = .tooManyDigits count := by
  simp only [Leaf.read] at h
  split at h
  · cases h
  · split at h
    · cases h
    · split at h
      · cases h
      · cases hr : Condition.read? written with
        | error cause =>
          rw [hr] at h
          cases h
          exact Condition.overlong_of_read? hr
        | ok found =>
          rw [hr] at h
          cases found <;> cases h

/-- What a conjunct becomes: a literal, a condition, or the text as written,
which fails on every record. -/
def Leaf.StandsFor (written : List Char) (leaf : Leaf) : Prop :=
  Leaf.read written = .ok leaf ∧
    ((∃ verdict, leaf = .literal verdict) ∨ (∃ stated, leaf = .condition stated) ∨
      leaf = .invalid (String.ofList written) ∧
        ∀ record, leaf.holds record = .error (.invalidCondition (String.ofList written)))

theorem Leaf.standsFor_of_read {leaf : Leaf} (h : Leaf.read written = .ok leaf) :
    leaf.StandsFor written := by
  refine ⟨h, ?_⟩
  simp only [Leaf.read] at h
  split at h
  · cases h
    exact .inl ⟨true, rfl⟩
  · split at h
    · cases h
      exact .inl ⟨false, rfl⟩
    · split at h
      · cases h
        exact .inr (.inr ⟨rfl, fun _ => rfl⟩)
      · obtain ⟨found, -, h⟩ := Attempt.bind_ok.mp h
        cases found with
        | some stated =>
          cases h
          exact .inr (.inl ⟨stated, rfl⟩)
        | none =>
          cases h
          exact .inr (.inr ⟨rfl, fun _ => rfl⟩)

end RecordQuery
