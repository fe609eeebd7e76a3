import RecordQuery.Double

/-!
# The range of whole numbers

A whole number has a float near to it exactly below 2¹⁰²⁴ − 2⁹⁷⁰, the middle
between the greatest float and 2¹⁰²⁴; the middle itself is a tie that goes to
the even side, which is out of range.
-/

namespace RecordQuery.Double

variable {units num den e x : Nat}

theorem roundDiv_cases (num den : Nat) :
    (roundDiv num den = num / den ∧ 2 * (num % den) ≤ den) ∨
      (roundDiv num den = num / den + 1 ∧ den ≤ 2 * (num % den)) := by
  unfold roundDiv
  dsimp only
  split
  · exact .inl ⟨rfl, by omega⟩
  · split
    · exact .inr ⟨rfl, by omega⟩
    · rcases Nat.mod_two_eq_zero_or_one (num / den) with h | h
      · exact .inl ⟨by rw [h, Nat.add_zero], by omega⟩
      · exact .inr ⟨by rw [h], by omega⟩

theorem roundDiv_odd (ho : num / den % 2 = 1) (h : den ≤ 2 * (num % den)) :
    roundDiv num den = num / den + 1 := by
  rcases roundDiv_cases num den with ⟨-, hr⟩ | ⟨he, -⟩
  · have hl : ¬ 2 * (num % den) < den := by omega
    have hg : ¬ den < 2 * (num % den) := by omega
    simp only [roundDiv, hl, hg, ↓reduceIte, ho]
  · exact he

/-- Rounding to a multiple of the spacing reaches a power of two exactly from
the middle of the last step below it. -/
theorem rounded_lt_iff (hx : Nat.pow 2 e = x) :
    roundDiv units (spacing units) * spacing units < Nat.pow 2 54 * x ↔
      units < (Nat.pow 2 54 - 1) * x := by
  replace hx : 2 ^ e = x := hx
  show _ < 2 ^ 54 * x ↔ units < (2 ^ 54 - 1) * x
  obtain ⟨k, hk⟩ : ∃ k, units.log2 - 52 = k := ⟨_, rfl⟩
  have hs : spacing units = 2 ^ k := by rw [spacing, hk]; rfl
  have hd := Nat.div_add_mod units (2 ^ k)
  have hm := Nat.mod_lt units (Nat.two_pow_pos k)
  have hu : units < 2 ^ 53 * 2 ^ k := by
    rw [← Nat.pow_add]
    exact Nat.lt_of_lt_of_le Nat.lt_log2_self (Nat.pow_le_pow_right (by decide) (by omega))
  have hq : units / 2 ^ k < 2 ^ 53 := Nat.div_lt_of_lt_mul (by rwa [Nat.mul_comm])
  have hc := roundDiv_cases units (2 ^ k)
  rw [hs]
  rcases Nat.lt_trichotomy k (e + 1) with h | rfl | h
  · -- So small a number stays below on both sides.
    have hle : 2 ^ k ≤ x := hx ▸ Nat.pow_le_pow_right (by decide) (by omega)
    have hr : roundDiv units (2 ^ k) ≤ 2 ^ 53 := by omega
    have := Nat.mul_le_mul hr hle
    have := Nat.two_pow_pos e
    omega
  · have h2 : 2 ^ (e + 1) = 2 * x := by rw [Nat.pow_succ, Nat.mul_comm, hx]
    rw [h2] at hd hm hc hq ⊢
    by_cases hlast : units / (2 * x) = 2 ^ 53 - 1
    · rw [hlast] at hd
      rcases Nat.lt_or_ge (2 * (units % (2 * x))) (2 * x) with hr | hr
      · have hk : roundDiv units (2 * x) = 2 ^ 53 - 1 := by omega
        rw [hk]
        omega
      · rw [roundDiv_odd (by omega) hr, hlast]
        omega
    · have hr : roundDiv units (2 * x) ≤ 2 ^ 53 - 1 := by omega
      have hl : units / (2 * x) ≤ 2 ^ 53 - 2 := by omega
      have := Nat.mul_le_mul_right (2 * x) hr
      have := Nat.mul_le_mul_left (2 * x) hl
      omega
  · -- So large a number is beyond on both sides.
    have hn : units ≠ 0 := by
      rintro rfl
      simp at hk
      omega
    have hself : 2 ^ 52 * 2 ^ k ≤ units := by
      rw [← Nat.pow_add, show 52 + k = units.log2 by omega]
      exact Nat.log2_self_le hn
    have hge : 2 ^ 2 * x ≤ 2 ^ k := by
      rw [← hx, ← Nat.pow_add]
      exact Nat.pow_le_pow_right (by decide) (by omega)
    have hl : 2 ^ 52 ≤ units / 2 ^ k := (Nat.le_div_iff_mul_le (Nat.two_pow_pos k)).mpr hself
    have hr : 2 ^ 52 ≤ roundDiv units (2 ^ k) := by omega
    have := Nat.mul_le_mul_right (2 ^ k) hr
    omega

/-- The least magnitude of a whole number without a float near to it. -/
def wholeBound : Nat := Nat.pow 2 1024 - Nat.pow 2 970

theorem bound_eq : bound = Nat.pow 2 54 * Nat.pow 2 2044 := by decide +kernel

theorem wholeBound_mul_unit : wholeBound * unit = (Nat.pow 2 54 - 1) * Nat.pow 2 2044 := by
  decide +kernel

theorem unit_pos : 0 < unit := by decide +kernel

theorem whole_lt_bound (n : Nat) :
    roundDiv (n * unit) (spacing (n * unit)) * spacing (n * unit) < bound ↔ n < wholeBound := by
  have h : ∀ x, Nat.pow 2 2044 = x → bound = Nat.pow 2 54 * x →
      wholeBound * unit = (Nat.pow 2 54 - 1) * x →
      (roundDiv (n * unit) (spacing (n * unit)) * spacing (n * unit) < bound ↔
        n < wholeBound) := by
    intro x hx hb hw
    rw [hb, rounded_lt_iff hx, ← hw]
    exact Nat.mul_lt_mul_right unit_pos
  exact h _ rfl bound_eq wholeBound_mul_unit

theorem ofInt?_eq : ofInt? = fun n : Int => match nearest (n < 0) n.natAbs 1 with
    | .infinite _ => none
    | x => some x := by
  -- The functions are compared before they are applied: a match on the
  -- nearest number itself would be evaluated, and that goes too deep.
  delta ofInt?
  funext n
  generalize nearest (decide (n < 0)) n.natAbs 1 = x
  cases x <;> rfl

theorem nearest_whole (negative : Bool) (n : Nat) :
    nearest negative n 1 =
      if roundDiv (n * unit) (spacing (n * unit)) * spacing (n * unit) < bound then
        finite negative (roundDiv (n * unit) (spacing (n * unit)) * spacing (n * unit))
      else infinite negative := by
  unfold nearest
  dsimp only
  rw [Nat.div_one, Nat.one_mul]

theorem ofInt?_isSome_iff (n : Int) : (ofInt? n).isSome = true ↔ n.natAbs < wholeBound := by
  have hn := nearest_whole (n < 0) n.natAbs
  by_cases h : n.natAbs < wholeBound
  · rw [if_pos ((whole_lt_bound _).mpr h)] at hn
    simp only [ofInt?_eq, hn]
    exact iff_of_true rfl h
  · rw [if_neg (mt (whole_lt_bound _).mp h)] at hn
    simp only [ofInt?_eq, hn]
    exact iff_of_false Bool.false_ne_true h

end RecordQuery.Double
