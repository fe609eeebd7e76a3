import RecordQuery.Json.Reading
import RecordQuery.Json.Writing
import RecordQuery.Proofs.Text.Units

/-!
# Texts in JSON

A text between quotes is read back as that text, whatever follows: every
character is one that stands for itself, a short escape or one escape for
each of its units.
-/

namespace RecordQuery.Json

variable {rest : List Char}

theorem hexValue?_hexDigit {d : Nat} (h : d < 16) : hexValue? (hexDigit d) = some d := by
  have : ∀ d < 16, hexValue? (hexDigit d) = some d := by decide
  exact this d h

theorem unitOf?_hexDigits {code : Nat} (h : code < 0x10000) :
    unitOf? (hexDigit (code / 4096 % 16)) (hexDigit (code / 256 % 16)) (hexDigit (code / 16 % 16))
      (hexDigit (code % 16)) = some code := by
  have hd (n : Nat) : hexValue? (hexDigit (n % 16)) = some (n % 16) :=
    hexValue?_hexDigit (Nat.mod_lt n (by decide))
  simp only [unitOf?, hd]
  exact congrArg some (by omega)

def before (codes : List Nat) (rest : List Char) : Option (List Nat × List Char) :=
  (codes? rest).map fun read => (codes ++ read.1, read.2)

theorem codes?_unitEscape {code : Nat} (h : code < 0x10000) :
    codes? (unitEscape code ++ rest) = before [code] rest := by
  simp only [unitEscape, List.cons_append, List.nil_append, codes?, unitOf?_hexDigits h, before]
  cases codes? rest <;> rfl

theorem codes?_unitEscapes {codes : List Nat} (h : ∀ code ∈ codes, code < 0x10000) :
    codes? (codes.flatMap unitEscape ++ rest) = before codes rest := by
  induction codes with
  | nil => simp [before]
  | cons code codes ih =>
    obtain ⟨hc, hr⟩ := List.forall_mem_cons.mp h
    rw [List.flatMap_cons, List.append_assoc, codes?_unitEscape hc, before, ih hr, before, before,
      Option.map_map]
    rfl

theorem codes?_plain {c : Char} (hq : c ≠ '"') (hb : c ≠ '\\') (hc : ¬ c < ' ') :
    codes? (c :: rest) = before [c.toNat] rest := by
  have hs : (decide (c < ' ') || c == '\\') = false := by simp [hc, hb]
  rw [codes?, hs, before]
  · cases codes? rest <;> rfl
  · exact hq
  · intro _ _ _ _ _ he
    exact absurd he hb
  · intro _ _ he
    exact absurd he hb

theorem codes?_short {c meant : Char} (h : unescape? c = some meant) (hu : c ≠ 'u') :
    codes? ('\\' :: c :: rest) = before [meant.toNat] rest := by
  rw [codes?, h, before]
  · cases codes? rest <;> rfl
  · intro _ _ _ _ _ he
    exact absurd he hu

theorem codes?_escape (c : Char) : codes? (escape c ++ rest) = before (Text.units c) rest := by
  unfold escape
  -- the seven short escapes
  iterate 7
    split
    case isTrue h =>
      rw [eq_of_beq h]
      exact codes?_short rfl (by decide)
  rename_i hq hb _ _ _ _ _
  split
  case isTrue h =>
    obtain ⟨hlow, hhigh⟩ := Bool.and_eq_true_iff.mp h
    have hlow : ' ' ≤ c := of_decide_eq_true hlow
    have hhigh : c ≤ '~' := of_decide_eq_true hhigh
    have hunit : c.toNat < 0x10000 := Nat.lt_of_le_of_lt hhigh (by decide)
    rw [Text.units, if_pos hunit]
    exact codes?_plain (mt beq_iff_eq.mpr hq) (mt beq_iff_eq.mpr hb) (Char.not_lt.mpr hlow)
  case isFalse => exact codes?_unitEscapes fun code => Text.units_lt

theorem codes?_flatMap_escape (s : List Char) :
    codes? (s.flatMap escape ++ '"' :: rest) = some (s.flatMap Text.units, rest) := by
  induction s with
  | nil => rfl
  | cons c s ih =>
    rw [List.flatMap_cons, List.append_assoc, codes?_escape, before, ih]
    rfl

theorem textAfterQuote?_escape (s : List Char) :
    textAfterQuote? (s.flatMap escape ++ '"' :: rest) = some (s, rest) := by
  rw [textAfterQuote?, codes?_flatMap_escape]
  simp only [Option.map_some, Text.ofUnits_flatMap_units]

end RecordQuery.Json
