import RecordQuery.Text.Encoding.Unicode

/-!
# Joining UTF-16 units

The units of a text are joined to that text again. A character is never half
of a pair, so a single unit is not taken for the start of one.
-/

namespace RecordQuery.Text

theorem charOf_toNat (c : Char) : charOf c.toNat = c := by
  have h : c.toNat.isValidChar := c.valid
  rw [charOf, if_pos h, Char.ofNat_toNat]

theorem isHighSurrogate_toNat (c : Char) : isHighSurrogate c.toNat = false := by
  have h : c.toNat.isValidChar := c.valid
  simp only [Nat.isValidChar] at h
  simp only [isHighSurrogate, Bool.and_eq_false_iff, decide_eq_false_iff_not]
  omega

theorem ofUnits_cons (c : Char) (rest : List Nat) :
    ofUnits (c.toNat :: rest) = c :: ofUnits rest := by
  cases rest with
  | nil => simp [ofUnits, charOf_toNat]
  | cons low rest => simp [ofUnits, isHighSurrogate_toNat, charOf_toNat]

theorem ofUnits_units (c : Char) (rest : List Nat) :
    ofUnits (units c ++ rest) = c :: ofUnits rest := by
  rw [units]
  split
  · exact ofUnits_cons c rest
  · have h : c.toNat.isValidChar := c.valid
    simp only [Nat.isValidChar] at h
    have hh : isHighSurrogate (0xd800 + (c.toNat - 0x10000) / 0x400) = true := by
      simp only [isHighSurrogate, Bool.and_eq_true, decide_eq_true_eq]
      omega
    have hl : isLowSurrogate (0xdc00 + (c.toNat - 0x10000) % 0x400) = true := by
      simp only [isLowSurrogate, Bool.and_eq_true, decide_eq_true_eq]
      omega
    have hc : 0x10000 + (0xd800 + (c.toNat - 0x10000) / 0x400 - 0xd800) * 0x400 +
        (0xdc00 + (c.toNat - 0x10000) % 0x400 - 0xdc00) = c.toNat := by omega
    simp only [List.cons_append, List.nil_append, ofUnits, hh, hl, Bool.and_self, ↓reduceIte, hc,
      charOf_toNat]

theorem ofUnits_flatMap_units (s : List Char) : ofUnits (s.flatMap units) = s := by
  induction s with
  | nil => rfl
  | cons c s ih => rw [List.flatMap_cons, ofUnits_units, ih]

theorem units_lt {c : Char} {code : Nat} (h : code ∈ units c) : code < 0x10000 := by
  have hv : c.toNat.isValidChar := c.valid
  simp only [Nat.isValidChar] at hv
  rw [units] at h
  split at h
  · simp only [List.mem_singleton] at h
    omega
  · simp only [List.mem_cons, List.not_mem_nil, or_false] at h
    omega

end RecordQuery.Text
