import RecordQuery.Proofs.Double.Range

/-!
# Whole numbers among the floats

Rounding keeps the order of whole numbers, but not strictly: two of them may
have one float near to both. Below 2⁵³ every whole number is a float, so no
other number is rounded to it. Two whole numbers are therefore in the order
of their floats, unless these are the same.
-/

namespace RecordQuery.Double

variable {a b den e m units x : Nat}

-- ---------------------------------------------------------------------------
-- Quotients
-- ---------------------------------------------------------------------------

theorem roundDiv_mono (h : a ≤ b) : roundDiv a den ≤ roundDiv b den := by
  have hq : a / den ≤ b / den := Nat.div_le_div_right h
  rcases Nat.lt_or_eq_of_le hq with hlt | heq
  · have ha := roundDiv_cases a den
    have hb := roundDiv_cases b den
    omega
  · have hr : a % den ≤ b % den := by
      have ha := Nat.div_add_mod a den
      have hb := Nat.div_add_mod b den
      rw [heq] at ha
      omega
    grind [roundDiv]

theorem roundDiv_mul_self (h : 0 < den) (m : Nat) : roundDiv (m * den) den = m := by
  rw [roundDiv, Nat.mul_div_cancel m h, Nat.mul_mod_left]
  exact if_pos h

-- ---------------------------------------------------------------------------
-- The grid of floats
-- ---------------------------------------------------------------------------

/-- The point nearest to a magnitude on the grid of its own spacing, also
where it is out of range. -/
def rounded (units : Nat) : Nat := roundDiv units (spacing units) * spacing units

theorem spacing_pos (units : Nat) : 0 < spacing units := Nat.two_pow_pos _

theorem spacing_dvd (h : units.log2 ≤ e + 52) : spacing units ∣ Nat.pow 2 e :=
  Nat.pow_dvd_pow 2 (Nat.sub_le_of_le_add h)

theorem rounded_le (hs : spacing a ∣ m) (h : a ≤ m) : rounded a ≤ m := by
  obtain ⟨k, rfl⟩ := hs
  rw [Nat.mul_comm] at h ⊢
  refine Nat.mul_le_mul_right _ ?_
  calc roundDiv a (spacing a) ≤ roundDiv (k * spacing a) (spacing a) := roundDiv_mono h
    _ = k := roundDiv_mul_self (spacing_pos a) k

theorem le_rounded (hs : spacing b ∣ m) (h : m ≤ b) : m ≤ rounded b := by
  obtain ⟨k, rfl⟩ := hs
  rw [Nat.mul_comm] at h ⊢
  refine Nat.mul_le_mul_right _ ?_
  calc k = roundDiv (k * spacing b) (spacing b) := (roundDiv_mul_self (spacing_pos b) k).symm
    _ ≤ roundDiv b (spacing b) := roundDiv_mono h

theorem rounded_eq_self (h : spacing units ∣ units) : rounded units = units :=
  Nat.le_antisymm (rounded_le h (Nat.le_refl _)) (le_rounded h (Nat.le_refl _))

/-- Below it every whole number is a float: 2⁵³. -/
def exactBound : Nat := Nat.pow 2 53

/-- At most 53 significant bits: such a number lies on the grid, whatever power
of two it counts. -/
theorem spacing_dvd_multiple (hx : x = Nat.pow 2 e) (h : m ≤ exactBound) :
    spacing (m * x) ∣ m * x := by
  replace h : m ≤ 2 ^ 53 := h
  rcases Nat.eq_zero_or_pos m with rfl | hm
  · rw [Nat.zero_mul]
    exact Nat.dvd_zero _
  obtain rfl : x = 2 ^ e := hx
  rcases Nat.lt_or_eq_of_le h with hlt | rfl
  · have h0 : m * 2 ^ e ≠ 0 := Nat.mul_ne_zero (Nat.ne_of_gt hm) (Nat.ne_of_gt (Nat.two_pow_pos e))
    have hl : m * 2 ^ e < 2 ^ (53 + e) := by
      rw [Nat.pow_add]
      exact Nat.mul_lt_mul_of_pos_right hlt (Nat.two_pow_pos e)
    have := (Nat.log2_lt h0).mpr hl
    exact Nat.dvd_trans (spacing_dvd (by omega)) (Nat.dvd_mul_left _ m)
  · rw [← Nat.pow_add]
    refine spacing_dvd ?_
    rw [Nat.log2_two_pow]
    omega

theorem unit_eq : unit = Nat.pow 2 1074 := by decide +kernel

theorem two_pow_log2_le_rounded (h : units ≠ 0) : Nat.pow 2 units.log2 ≤ rounded units :=
  le_rounded (spacing_dvd (Nat.le_add_right _ _)) (Nat.log2_self_le h)

theorem rounded_pos (h : units ≠ 0) : 0 < rounded units :=
  Nat.lt_of_lt_of_le (Nat.two_pow_pos _) (two_pow_log2_le_rounded h)

/-- Within a binade the grids are the same; otherwise a power of two lies
between the numbers and on both grids. -/
theorem rounded_mono (h : a ≤ b) : rounded a ≤ rounded b := by
  rcases Nat.eq_zero_or_pos b with rfl | hb
  · exact Nat.le_of_eq (congrArg rounded (Nat.le_zero.mp h))
  rcases Nat.lt_or_ge a (2 ^ b.log2) with hlt | hge
  · have hs : spacing a ∣ 2 ^ b.log2 := by
      refine spacing_dvd ?_
      rcases Nat.eq_zero_or_pos a with rfl | ha
      · simp
      · have := (Nat.log2_lt (Nat.ne_of_gt ha)).mpr hlt
        omega
    exact Nat.le_trans (rounded_le hs (Nat.le_of_lt hlt))
      (two_pow_log2_le_rounded (Nat.ne_of_gt hb))
  · have ha : a ≠ 0 := Nat.ne_of_gt (Nat.lt_of_lt_of_le (Nat.two_pow_pos _) hge)
    have hl : a.log2 = b.log2 :=
      (Nat.log2_eq_iff ha).mpr ⟨hge, Nat.lt_of_le_of_lt h Nat.lt_log2_self⟩
    rw [rounded, rounded, spacing, spacing, hl]
    exact Nat.mul_le_mul_right _ (roundDiv_mono h)

-- ---------------------------------------------------------------------------
-- Whole numbers
-- ---------------------------------------------------------------------------

section
variable {n m : Int} {x y : Double}

def near (n : Int) : Int := signed (n < 0) (rounded (n.natAbs * unit))

theorem ofInt?_eq_some (h : ofInt? n = some x) :
    x = finite (n < 0) (rounded (n.natAbs * unit)) := by
  have hn := nearest_whole (n < 0) n.natAbs
  simp only [ofInt?_eq] at h
  split at hn
  · rw [hn] at h
    exact (Option.some.inj h).symm
  · rw [hn] at h
    cases h

theorem place?_ofInt? (h : ofInt? n = some x) :
    x.place? = some (0, near n) := by
  rw [ofInt?_eq_some h]
  rfl

theorem near_of_neg (h : n < 0) : near n = -(rounded (n.natAbs * unit) : Int) := by
  rw [near, signed, if_pos (decide_eq_true h)]

theorem near_of_nonneg (h : 0 ≤ n) : near n = rounded (n.natAbs * unit) := by
  rw [near, signed, if_neg (mt of_decide_eq_true (Int.not_lt.mpr h))]

theorem near_mono (h : n ≤ m) : near n ≤ near m := by
  rcases Int.lt_or_le m 0 with hm | hm
  · have hr : rounded (m.natAbs * unit) ≤ rounded (n.natAbs * unit) :=
      rounded_mono (Nat.mul_le_mul_right _ (by omega))
    rw [near_of_neg (Int.lt_of_le_of_lt h hm), near_of_neg hm]
    omega
  · rcases Int.lt_or_le n 0 with hn | hn
    · rw [near_of_neg hn, near_of_nonneg hm]
      omega
    · have hr : rounded (n.natAbs * unit) ≤ rounded (m.natAbs * unit) :=
        rounded_mono (Nat.mul_le_mul_right _ (by omega))
      rw [near_of_nonneg hn, near_of_nonneg hm]
      omega

/-- Floats near to whole numbers are told apart by their places: a negative
number is not rounded to zero. -/
theorem near_inj (hn : ofInt? n = some x) (hm : ofInt? m = some y) :
    near n = near m ↔ x = y := by
  have hpos {k : Int} (hk : k < 0) : 0 < rounded (k.natAbs * unit) :=
    rounded_pos (Nat.mul_ne_zero (by omega) (Nat.ne_of_gt unit_pos))
  constructor
  · intro h
    rw [ofInt?_eq_some hn, ofInt?_eq_some hm]
    rcases Int.lt_or_le n 0 with hln | hln <;> rcases Int.lt_or_le m 0 with hlm | hlm
    · rw [near_of_neg hln, near_of_neg hlm] at h
      rw [decide_eq_true hln, decide_eq_true hlm, Int.ofNat.inj (Int.neg_inj.mp h)]
    · have := hpos hln
      rw [near_of_neg hln, near_of_nonneg hlm] at h
      omega
    · have := hpos hlm
      rw [near_of_nonneg hln, near_of_neg hlm] at h
      omega
    · rw [near_of_nonneg hln, near_of_nonneg hlm] at h
      rw [decide_eq_false (Int.not_lt.mpr hln), decide_eq_false (Int.not_lt.mpr hlm),
        Int.ofNat.inj h]
  · rintro rfl
    have hp := (place?_ofInt? hn).symm.trans (place?_ofInt? hm)
    exact congrArg Prod.snd (Option.some.inj hp)

theorem less_ofInt? (hn : ofInt? n = some x) (hm : ofInt? m = some y) :
    x.less y = decide (n < m ∧ x ≠ y) := by
  have hb : x.less y = decide (near n < near m) := by
    simp [less, place?_ofInt? hn, place?_ofInt? hm, before]
  rw [hb]
  refine decide_eq_decide.mpr ⟨fun h => ⟨?_, fun he => ?_⟩, fun h => ?_⟩
  · exact Int.not_le.mp fun hle => Int.not_le.mpr h (near_mono hle)
  · exact absurd ((near_inj hn hm).mpr he) (Int.ne_of_lt h)
  · exact Int.lt_iff_le_and_ne.mpr ⟨near_mono (Int.le_of_lt h.1), mt (near_inj hn hm).mp h.2⟩

-- ---------------------------------------------------------------------------
-- Exact whole numbers
-- ---------------------------------------------------------------------------

/-- Up to 2⁵³ whole numbers are floats themselves. -/
theorem near_exact (h : n.natAbs ≤ exactBound) : near n = n * unit := by
  have hr : rounded (n.natAbs * unit) = n.natAbs * unit :=
    rounded_eq_self (spacing_dvd_multiple unit_eq h)
  rcases Int.lt_or_le n 0 with hn | hn
  · rw [near_of_neg hn, hr, Int.natCast_mul, Int.ofNat_natAbs_of_nonpos (Int.le_of_lt hn),
      Int.neg_mul, Int.neg_neg]
  · rw [near_of_nonneg hn, hr, Int.natCast_mul, Int.natAbs_of_nonneg hn]

theorem near_ne (h : n.natAbs < exactBound) (hne : n ≠ m) : near n ≠ near m := by
  have hu : (0 : Int) < unit := Int.ofNat_lt.mpr unit_pos
  intro he
  rcases Int.lt_or_gt_of_ne hne with hlt | hlt
  · have hle : near (n + 1) ≤ near m := near_mono hlt
    rw [← he, near_exact (Nat.le_of_lt h), near_exact (by omega), Int.add_mul] at hle
    omega
  · have hle : near m ≤ near (n - 1) := near_mono (by omega)
    rw [← he, near_exact (Nat.le_of_lt h), near_exact (by omega), Int.sub_mul] at hle
    omega

end

end RecordQuery.Double
