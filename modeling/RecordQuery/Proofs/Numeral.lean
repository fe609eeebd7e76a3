import RecordQuery.Numeral
import RecordQuery.Proofs.Text.Word

/-!
# Numerals

The decimal digits of an integer are read back as that integer: they are one
numeral as a whole, without point and exponent. The integer numerals are the
digits of any script, with or without a sign.
-/

namespace RecordQuery

namespace Text

theorem isAscii_of_isDigit {c : Char} (h : c.isDigit = true) : isAscii c = true := by
  have := toNat_of_isDigit h
  exact decide_eq_true (by omega)

theorem digit?_of_isDigit (h : c.isDigit = true) : digit? c = some (c.toNat - '0'.toNat) := by
  rw [digit?, if_pos (isAscii_of_isDigit h), if_pos h]

theorem leadingDigits_of_isDigit (h : ∀ c ∈ text, c.isDigit = true) :
    leadingDigits text = (text.map fun c => c.toNat - '0'.toNat, []) := by
  induction text with
  | nil => rfl
  | cons c text ih =>
    rw [leadingDigits, digit?_of_isDigit (h c (by simp)),
      ih fun d hd => h d (List.mem_cons_of_mem _ hd)]
    rfl

theorem isDigit_of_mem_natText (h : c ∈ natText n) : c.isDigit = true :=
  Nat.isDigit_of_mem_toDigits (by decide) (by decide) h

theorem natText_ne_nil (n : Nat) : natText n ≠ [] := Nat.toDigits_ne_nil

def digitsOf (n : Nat) : List Nat := (natText n).map fun c => c.toNat - '0'.toNat

theorem leadingDigits_natText (n : Nat) : leadingDigits (natText n) = (digitsOf n, []) :=
  leadingDigits_of_isDigit fun _ h => isDigit_of_mem_natText h

theorem ofDigits_digitsOf (n : Nat) : ofDigits (digitsOf n) = n := by
  rw [ofDigits, digitsOf, List.foldl_map]
  exact Nat.ofDigitChars_eq_foldl.symm.trans (Nat.ofDigitChars_toDigits (by decide) (by decide))

theorem length_digitsOf (n : Nat) : (digitsOf n).length = (natText n).length :=
  List.length_map ..

end Text

namespace Numeral

theorem signOf_of_isDigit (h : c.isDigit = true) (text : List Char) :
    signOf (c :: text) = (false, c :: text) := by
  unfold signOf
  split
  · next he => cases he; cases h
  · next he => cases he; cases h
  · rfl

theorem signOf_intText (n : Int) :
    signOf (Text.intText n) = (decide (n < 0), Text.natText n.natAbs) := by
  rw [Text.intText]
  by_cases hn : n < 0
  · rw [if_pos hn, decide_eq_true hn]
    rfl
  · rw [if_neg hn, decide_eq_false hn, List.nil_append]
    cases ht : Text.natText n.natAbs with
    | nil => exact absurd ht (Text.natText_ne_nil _)
    | cons c text =>
      have hc : c ∈ Text.natText n.natAbs := by simp [ht]
      exact signOf_of_isDigit (Text.isDigit_of_mem_natText hc) text

theorem mantissaOf_natText (n : Nat) :
    mantissaOf (Text.natText n) = some (Text.digitsOf n, none, []) := by
  rw [mantissaOf, Text.leadingDigits_natText]
  cases hd : Text.digitsOf n with
  | nil => exact absurd (List.map_eq_nil_iff.mp hd) (Text.natText_ne_nil n)
  | cons d digits => rfl

def ofInt (n : Int) : Numeral := ⟨decide (n < 0), Text.digitsOf n.natAbs, none, none⟩

theorem ofText?_intText (n : Int) : ofText? (Text.intText n) = some (ofInt n) := by
  have hs : scan (Text.intText n) = some (ofInt n, []) := by
    simp only [scan, signOf_intText, mantissaOf_natText]
    rfl
  rw [ofText?, hs]

theorem toInt_ofInt (n : Int) : (ofInt n).toInt = n := by
  simp only [toInt, ofInt, Text.ofDigits_digitsOf, decide_eq_true_eq]
  split <;> omega

end Numeral

-- ---------------------------------------------------------------------------
-- Integer numerals
-- ---------------------------------------------------------------------------

namespace Text

theorem leadingDigits_of_isDecimal (h : ∀ c ∈ text, isDecimal c = true) :
    ∃ digits, leadingDigits text = (digits, []) ∧ digits.length = text.length := by
  induction text with
  | nil => exact ⟨[], rfl, rfl⟩
  | cons c text ih =>
    obtain ⟨d, hd⟩ := Option.isSome_iff_exists.mp (h c List.mem_cons_self)
    obtain ⟨digits, ht, hl⟩ := ih fun e he => h e (List.mem_cons_of_mem c he)
    refine ⟨d :: digits, ?_, congrArg Nat.succ hl⟩
    rw [leadingDigits, hd, ht]

theorem isDecimal_of_leadingDigits (h : leadingDigits text = (digits, [])) :
    (∀ c ∈ text, isDecimal c = true) ∧ text.length = digits.length := by
  induction text generalizing digits with
  | nil =>
    cases h
    exact ⟨fun c hc => absurd hc List.not_mem_nil, rfl⟩
  | cons c text ih =>
    rw [leadingDigits] at h
    cases hd : digit? c with
    | none =>
      rw [hd] at h
      cases h
    | some d =>
      rw [hd] at h
      obtain ⟨rfl, ht⟩ := Prod.mk.inj h
      obtain ⟨ha, hl⟩ := ih (Prod.ext rfl ht)
      have hc : isDecimal c = true := by rw [isDecimal, hd, Option.isSome_some]
      exact ⟨List.forall_mem_cons.mpr ⟨hc, ha⟩, congrArg Nat.succ hl⟩

end Text

namespace Numeral

def IsSign (sign : List Char) : Prop := sign = [] ∨ sign = ['+'] ∨ sign = ['-']

theorem exists_sign (text : List Char) :
    ∃ sign, IsSign sign ∧ text = sign ++ (signOf text).2 := by
  unfold signOf
  split
  · exact ⟨['-'], .inr (.inr rfl), rfl⟩
  · exact ⟨['+'], .inr (.inl rfl), rfl⟩
  · exact ⟨[], .inl rfl, rfl⟩

theorem signOf_append (hs : IsSign sign) (h : ∀ c ∈ digits, Text.isDecimal c = true) :
    (signOf (sign ++ digits)).2 = digits := by
  rcases hs with rfl | rfl | rfl
  · cases digits with
    | nil => rfl
    | cons c rest =>
      have hc := h c List.mem_cons_self
      -- A sign is no digit.
      unfold signOf
      split
      · next he =>
        cases he
        cases hc
      · next he =>
        cases he
        cases hc
      · rfl
  · rfl
  · rfl

theorem ofText?_signed (hs : IsSign sign) (hn : digits ≠ [])
    (h : ∀ c ∈ digits, Text.isDecimal c = true) :
    ∃ numeral, ofText? (sign ++ digits) = some numeral ∧ numeral.isInteger = true ∧
      numeral.whole.length = digits.length := by
  obtain ⟨whole, hd, hl⟩ := Text.leadingDigits_of_isDecimal h
  have hw : whole ≠ [] := by
    rintro rfl
    exact hn (List.length_eq_zero_iff.mp hl.symm)
  have hm : mantissaOf digits = some (whole, none, []) := by
    rw [mantissaOf, hd]
    cases whole with
    | nil => exact absurd rfl hw
    | cons d whole => rfl
  refine ⟨⟨(signOf (sign ++ digits)).1, whole, none, none⟩, ?_, rfl, hl⟩
  simp only [ofText?, scan, signOf_append hs h, hm]
  rfl

theorem eq_nil_of_exponentOf (h : exponentOf text = (none, [])) : text = [] := by
  unfold exponentOf at h
  split at h
  · split at h
    · dsimp only at h
      split at h <;> cases h
    · cases h
  · rfl

theorem leadingDigits_of_mantissaOf (h : mantissaOf text = some (digits, none, [])) :
    Text.leadingDigits text = (digits, []) := by
  unfold mantissaOf at h
  split at h
  · split at h <;> cases h
  · cases h
  · cases h
  · next hd =>
    cases h
    exact hd

theorem scan_of_ofText? {numeral : Numeral} (h : ofText? text = some numeral) :
    scan text = some (numeral, []) := by
  unfold ofText? at h
  split at h
  · next hs =>
    cases h
    exact hs
  · cases h

theorem signed_of_ofText? {numeral : Numeral} (h : ofText? text = some numeral)
    (hi : numeral.isInteger = true) :
    ∃ sign digits, IsSign sign ∧ text = sign ++ digits ∧
      (∀ c ∈ digits, Text.isDecimal c = true) ∧ digits.length = numeral.whole.length := by
  obtain ⟨⟨whole, fraction, after⟩, hm, he⟩ := Option.map_eq_some_iff.mp (scan_of_ofText? h)
  obtain ⟨rfl, hr⟩ := Prod.mk.inj he
  obtain ⟨hf, hx⟩ := Bool.and_eq_true_iff.mp hi
  obtain rfl : fraction = none := Option.isNone_iff_eq_none.mp hf
  have ha : after = [] := eq_nil_of_exponentOf (Prod.ext (Option.isNone_iff_eq_none.mp hx) hr)
  subst ha
  obtain ⟨hd, hl⟩ := Text.isDecimal_of_leadingDigits (leadingDigits_of_mantissaOf hm)
  obtain ⟨sign, hs, ht⟩ := exists_sign text
  exact ⟨sign, _, hs, ht, hd, hl⟩

end Numeral

end RecordQuery
