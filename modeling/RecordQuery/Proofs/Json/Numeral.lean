import Mathlib.Data.List.Induction
import Mathlib.Data.List.TakeWhile
import RecordQuery.Json.Reading
import RecordQuery.Proofs.Numeral
import RecordQuery.Proofs.Value.Stored

/-!
# Integers in JSON

The digits of an integer are read back as that integer where nothing follows
that a numeral goes on with. An integer that is read has no more digits than
the numeral it was read from.
-/

namespace RecordQuery

namespace Text

theorem ne_of_isDigit {c d : Char} (hc : c.isDigit = true) (hd : d.isDigit = false) : c ≠ d := by
  rintro rfl
  rw [hd] at hc
  cases hc

theorem digitChar_ne_zero {d : Nat} (hd : d < 10) (h : d ≠ 0) : Nat.digitChar d ≠ '0' := by
  have : ∀ d < 10, d ≠ 0 → Nat.digitChar d ≠ '0' := by decide
  exact this d hd h

theorem head?_natText {n : Nat} (h : n ≠ 0) : (natText n).head? ≠ some '0' := by
  induction n using Nat.strongRecOn with
  | ind n ih =>
    rw [natText, Nat.toDigits_eq_if (by decide)]
    split
    · next hn => simpa using digitChar_ne_zero hn h
    · rw [List.head?_append_of_ne_nil _ Nat.toDigits_ne_nil]
      exact ih (n / 10) (by omega) (by omega)

theorem ofDigits_lt {digits : List Nat} (h : ∀ d ∈ digits, d < 10) :
    ofDigits digits < Nat.pow 10 digits.length := by
  induction digits using List.reverseRecOn with
  | nil => decide
  | append_singleton digits d ih =>
    have hi := ih fun e he => h e (List.mem_append_left _ he)
    have hd := h d (List.mem_append_right _ (List.mem_singleton.mpr rfl))
    have hs : Nat.pow 10 (digits ++ [d]).length = 10 * Nat.pow 10 digits.length := by
      rw [List.length_append, List.length_singleton, Nat.mul_comm]
      rfl
    have ho : ofDigits (digits ++ [d]) = 10 * ofDigits digits + d := by
      rw [ofDigits, List.foldl_append]
      rfl
    omega

theorem length_natText_le {n k : Nat} (hk : 0 < k) (h : n < Nat.pow 10 k) :
    (natText n).length ≤ k :=
  (Nat.length_toDigits_le_iff (by decide) hk).mpr h

end Text

namespace Json

variable {text rest : List Char}

-- ---------------------------------------------------------------------------
-- Digits written
-- ---------------------------------------------------------------------------

/-- A numeral does not go on here. -/
def Ends (rest : List Char) : Prop :=
  ∀ c ∈ rest.head?, c.isDigit = false ∧ c ≠ '.' ∧ c ≠ 'e' ∧ c ≠ 'E'

theorem asciiDigits_append {digits : List Char} (h : ∀ c ∈ digits, c.isDigit = true)
    (hr : Ends rest) :
    asciiDigits (digits ++ rest) = (digits.map fun c => c.toNat - '0'.toNat, rest) := by
  have ht : rest.takeWhile Char.isDigit = [] ∧ rest.dropWhile Char.isDigit = rest := by
    cases rest with
    | nil => exact ⟨rfl, rfl⟩
    | cons c rest =>
      have hc := (hr c rfl).1
      exact ⟨by rw [List.takeWhile_cons_of_neg (by simp [hc])],
        by rw [List.dropWhile_cons_of_neg (by simp [hc])]⟩
  rw [asciiDigits, List.takeWhile_append_of_pos h, List.dropWhile_append_of_pos h, ht.1, ht.2,
    List.append_nil]

theorem wholeOf_natText (n : Nat) (hr : Ends rest) :
    wholeOf (Text.natText n ++ rest) = (Text.digitsOf n, rest) := by
  by_cases hn : n = 0
  · subst hn
    rfl
  · unfold wholeOf
    split
    · next tail he =>
      have hh := congrArg List.head? he
      rw [List.head?_append_of_ne_nil _ (Text.natText_ne_nil n)] at hh
      exact absurd hh (Text.head?_natText hn)
    · exact asciiDigits_append (fun c hc => Text.isDigit_of_mem_natText hc) hr

theorem fractionOf_ends (hr : Ends rest) : fractionOf rest = (none, rest) := by
  unfold fractionOf
  split
  · exact absurd rfl (hr '.' rfl).2.1
  · rfl

theorem exponentOf_ends (hr : Ends rest) : exponentOf rest = (none, rest) := by
  cases rest with
  | nil => rfl
  | cons c rest =>
    obtain ⟨-, -, he, hE⟩ := hr c rfl
    simp [exponentOf, he, hE]

def minusOf (text : List Char) : Bool × List Char :=
  match text with
  | '-' :: rest => (true, rest)
  | _ => (false, text)

theorem numeral?_eq (text : List Char) : numeral? text =
    match wholeOf (minusOf text).2 with
    | ([], _) => none
    | (whole, after) =>
      let fraction := fractionOf after
      let exponent := exponentOf fraction.2
      some (⟨(minusOf text).1, whole, fraction.1, exponent.1⟩, exponent.2) := rfl

theorem minusOf_intText (n : Int) :
    minusOf (Text.intText n ++ rest) = (decide (n < 0), Text.natText n.natAbs ++ rest) := by
  rw [Text.intText]
  by_cases hn : n < 0
  · rw [if_pos hn, decide_eq_true hn]
    rfl
  · rw [if_neg hn, decide_eq_false hn, List.nil_append]
    cases ht : Text.natText n.natAbs with
    | nil => exact absurd ht (Text.natText_ne_nil _)
    | cons c text =>
      have hc : c ≠ '-' :=
        Text.ne_of_isDigit (Text.isDigit_of_mem_natText (ht ▸ List.mem_cons_self)) rfl
      unfold minusOf
      split
      · next he => exact absurd (List.cons.inj he).1 hc
      · rfl

theorem numeral?_intText (n : Int) (hr : Ends rest) :
    numeral? (Text.intText n ++ rest) = some (Numeral.ofInt n, rest) := by
  obtain ⟨d, digits, hd⟩ : ∃ d digits, Text.digitsOf n.natAbs = d :: digits :=
    List.exists_cons_of_ne_nil (mt List.map_eq_nil_iff.mp (Text.natText_ne_nil _))
  rw [numeral?_eq, minusOf_intText, wholeOf_natText _ hr, Numeral.ofInt, hd]
  simp only [fractionOf_ends hr, exponentOf_ends hr]

theorem number?_intText {n : Int} (h : (Value.int n).isReadable = true) (hr : Ends rest) :
    number? (Text.intText n ++ rest) = some (.int n, rest) := by
  have hl : ¬ Numeral.maxDigits < (Numeral.ofInt n).whole.length := by
    have := of_decide_eq_true h
    rw [Numeral.ofInt, Text.length_digitsOf]
    omega
  rw [number?, numeral?_intText n hr]
  simp only [Option.bind_eq_bind, Option.bind_some, if_neg hl, Numeral.toInt_ofInt]
  rfl

theorem word?_intText (n : Int) : word? (Text.intText n ++ rest) = none := by
  obtain ⟨c, digits, hd⟩ := List.exists_cons_of_ne_nil (Text.natText_ne_nil n.natAbs)
  have hc : c.isDigit = true := Text.isDigit_of_mem_natText (hd ▸ List.mem_cons_self)
  have hl (letter : Char) (h : letter.isDigit = false) : letter ≠ c :=
    (Text.ne_of_isDigit hc h).symm
  rw [Text.intText, hd]
  split <;> simp [word?, words, hl]

-- ---------------------------------------------------------------------------
-- Digits read
-- ---------------------------------------------------------------------------

theorem lt_of_mem_asciiDigits {d : Nat} (h : d ∈ (asciiDigits text).1) : d < 10 := by
  obtain ⟨c, hc, rfl⟩ := List.mem_map.mp h
  have := Text.toNat_of_isDigit (List.mem_takeWhile_imp hc)
  show c.toNat - 48 < 10
  omega

theorem lt_of_mem_wholeOf {d : Nat} (h : d ∈ (wholeOf text).1) : d < 10 := by
  unfold wholeOf at h
  split at h
  · rw [List.mem_singleton.mp h]
    decide
  · exact lt_of_mem_asciiDigits h

theorem digits_of_numeral? {numeral : Numeral} (h : numeral? text = some (numeral, rest)) :
    numeral.whole ≠ [] ∧ ∀ d ∈ numeral.whole, d < 10 := by
  rw [numeral?_eq] at h
  split at h
  · cases h
  · next whole after hn hw =>
    cases h
    refine ⟨hn, fun d hd => @lt_of_mem_wholeOf (minusOf text).2 d ?_⟩
    rw [hw]
    exact hd

theorem natAbs_toInt (numeral : Numeral) :
    numeral.toInt.natAbs = Text.ofDigits numeral.whole := by
  rw [Numeral.toInt]
  split <;> omega

theorem isReadable_of_number? {value : Value} (h : number? text = some (value, rest)) :
    value.isReadable = true := by
  obtain ⟨⟨numeral, after⟩, hn, h⟩ := Option.bind_eq_some_iff.mp h
  obtain ⟨hne, hlt⟩ := digits_of_numeral? hn
  dsimp only at h
  split at h
  · split at h
    · cases h
    · next hl =>
      cases h
      have hle := Text.length_natText_le (List.length_pos_iff.mpr hne) (Text.ofDigits_lt hlt)
      rw [← natAbs_toInt] at hle
      exact decide_eq_true (Nat.le_trans hle (Nat.le_of_not_lt hl))
  · cases h
    rfl

end Json

end RecordQuery
