import RecordQuery.Proofs.Condition.Failing
import RecordQuery.Proofs.Double.Rounding

/-!
# Comparisons

Equality and its opposite answer one question, and the two orders convert one
pair of numbers, so the members of either pair fail together. Whole numbers
are equal as they stand but are ordered by the floats near to them: two that
have one float between them are neither equal nor in any order.
-/

namespace RecordQuery.Condition

open Attempt (map_ok map_error)
open Double (ofInt?)

variable {record : Record} {field : String} {n m : Int} {x y : Double}

-- ---------------------------------------------------------------------------
-- Both orders at once
-- ---------------------------------------------------------------------------

/-- The numbers that an order compares; a field without order has none. -/
def operands (field value : Value) : Except Failure (Option (Double × Double)) :=
  if field.isNullish || field.isList then .ok none
  else do .ok (some (← field.toNumber, ← value.parseFloat))

theorem ordered_eq (compare : Double → Double → Bool) (field value : Value) :
    ordered compare field value =
      (operands field value).map (·.any fun pair => compare pair.1 pair.2) := by
  unfold ordered operands
  split
  · rfl
  · cases field.toNumber with
    | error failure => rfl
    | ok x => cases value.parseFloat <;> rfl

theorem ordered_error_iff {compare other : Double → Double → Bool} {field value : Value}
    {failure : Failure} :
    ordered compare field value = .error failure ↔ ordered other field value = .error failure := by
  rw [ordered_eq, ordered_eq, map_error, map_error]

theorem ordered_exclusive {field value : Value}
    (hg : ordered (fun x y => y.less x) field value = .ok true)
    (hl : ordered Double.less field value = .ok true) : False := by
  rw [ordered_eq, map_ok] at hg hl
  obtain ⟨pair?, hp, hg⟩ := hg
  obtain ⟨_, hq, hl⟩ := hl
  obtain rfl := Except.ok.inj (hp.symm.trans hq)
  cases pair? with
  | none => cases hg
  | some pair => exact absurd hg (Bool.eq_false_iff.mp (Double.less_asymm hl))

theorem ordered_unordered {compare : Double → Double → Bool} {field value : Value}
    (h : field.isNullish = true ∨ field.isList = true) :
    ordered compare field value = .ok false := by
  rw [ordered, if_pos (Bool.or_eq_true_iff.mpr h)]

/-- Of a field and a value, `!=` returns the opposite of what `=` returns and
fails as it does. At most one of the orders holds, both fail alike, and none
holds of a list or of no value. -/
theorem comparisons_coherent (record : Record) (field : String) (value : Value) :
    (∀ verdict, (mk field .unequal value).holds record = .ok verdict ↔
      (mk field .equal value).holds record = .ok (!verdict)) ∧
    (∀ failure, (mk field .unequal value).holds record = .error failure ↔
      (mk field .equal value).holds record = .error failure) ∧
    ¬ ((mk field .greater value).holds record = .ok true ∧
      (mk field .less value).holds record = .ok true) ∧
    (∀ failure, (mk field .greater value).holds record = .error failure ↔
      (mk field .less value).holds record = .error failure) ∧
    ((record.get field).isNullish = true ∨ (record.get field).isList = true →
      (mk field .greater value).holds record = .ok false ∧
      (mk field .less value).holds record = .ok false) := by
  have hu : (mk field .unequal value).holds record =
      ((mk field .equal value).holds record).map (!·) := differs_eq _ _
  refine ⟨fun verdict => ?_, fun failure => ?_, fun ⟨hg, hl⟩ => ?_, fun failure => ?_, fun h => ?_⟩
  · rw [hu, map_ok]
    constructor
    · rintro ⟨equal, he, rfl⟩
      rw [he, Bool.not_not]
    · intro h
      exact ⟨!verdict, h, Bool.not_not verdict⟩
  · rw [hu, map_error]
  · exact ordered_exclusive hg hl
  · exact ordered_error_iff
  · exact ⟨ordered_unordered h, ordered_unordered h⟩

theorem coherent_tags :
    Value.isList (Record.get [("tags", .list [.int 2])] "tags") = true ∧
    (mk "tags" .greater (.int 1)).holds [("tags", .list [.int 2])] = .ok false ∧
    (mk "tags" .less (.int 1)).holds [("tags", .list [.int 2])] = .ok false :=
  ⟨rfl, (comparisons_coherent [("tags", .list [.int 2])] "tags" (.int 1)).2.2.2.2 (.inr rfl)⟩

-- ---------------------------------------------------------------------------
-- Whole numbers
-- ---------------------------------------------------------------------------

theorem samePlace_int (n m : Int) : Value.samePlace (.int n) (.int m) = decide (n = m) := by
  have hu : (Double.unit : Int) ≠ 0 := Int.ofNat_ne_zero.mpr (Nat.ne_of_gt Double.unit_pos)
  have hp : Double.placeOfInt n = Double.placeOfInt m ↔ n = m :=
    ⟨fun h => Int.eq_of_mul_eq_mul_right hu (congrArg Prod.snd h), congrArg _⟩
  show (Double.placeOfInt n == Double.placeOfInt m) = _
  rw [Bool.eq_iff_iff, beq_iff_eq, hp, decide_eq_true_iff]

theorem equals_int (n m : Int) : equals (.int n) (.int m) = .ok (decide (n = m)) := by
  simp [equals, Value.isNullish, Value.looseEquals, Value.asNumber, Value.same, samePlace_int]

theorem ordered_int (compare : Double → Double → Bool) (hn : ofInt? n = some x)
    (hm : ofInt? m = some y) : ordered compare (.int n) (.int m) = .ok (compare x y) := by
  simp only [ordered, Value.toNumber, Value.parseFloat, Value.floatOfInt_eq, hn, hm]
  rfl

/-- Whole numbers are equal if they are the same, and in the order that the
condition asks for if they are so and their floats differ; so they do if one
of the numbers lies within 2⁵³. -/
theorem compares_integers (hf : record.get field = .int n) (hn : ofInt? n = some x)
    (hm : ofInt? m = some y) :
    (mk field .equal (.int m)).holds record = .ok (decide (n = m)) ∧
    (mk field .greater (.int m)).holds record = .ok (decide (m < n ∧ x ≠ y)) ∧
    (mk field .less (.int m)).holds record = .ok (decide (n < m ∧ x ≠ y)) ∧
    (n ≠ m → n.natAbs < Double.exactBound ∨ m.natAbs < Double.exactBound → x ≠ y) := by
  refine ⟨?_, ?_, ?_, fun hne h he => ?_⟩
  · simp only [holds, hf]
    exact equals_int n m
  · simp only [holds, hf, ordered_int _ hn hm, Double.less_ofInt? hm hn, ne_comm]
  · simp only [holds, hf, ordered_int _ hn hm, Double.less_ofInt? hn hm]
  · have hp := (Double.near_inj hn hm).mpr he
    rcases h with h | h
    · exact Double.near_ne h hne hp
    · exact Double.near_ne h hne.symm hp.symm

def wide : Record := [("id", .int 9007199254740993)]

theorem exists_ofInt? (h : n.natAbs < Double.wholeBound) : ∃ x, ofInt? n = some x :=
  Option.isSome_iff_exists.mp ((Double.ofInt?_isSome_iff n).mpr h)

theorem compares_wide :
    (mk "id" .equal (.int 1)).holds wide = .ok false ∧
    (mk "id" .greater (.int 1)).holds wide = .ok true ∧
    (mk "id" .less (.int 1)).holds wide = .ok false := by
  have hf : wide.get "id" = .int 9007199254740993 := rfl
  obtain ⟨x, hx⟩ := exists_ofInt? (n := 9007199254740993) (by decide +kernel)
  obtain ⟨y, hy⟩ := exists_ofInt? (n := 1) (by decide +kernel)
  obtain ⟨he, hg, hl, hd⟩ := compares_integers hf hx hy
  have hne : x ≠ y := hd (by decide) (.inr (by decide))
  rw [he, hg, hl]
  simp [hne]

/-- 2⁵³ + 1 is rounded to 2⁵³: both have a float near to them, and neither
equality nor an order holds between them. -/
theorem wide_incomparable :
    ((ofInt? 9007199254740993).isSome ∧ (ofInt? 9007199254740992).isSome) ∧
    (mk "id" .equal (.int 9007199254740992)).holds wide = .ok false ∧
    (mk "id" .greater (.int 9007199254740992)).holds wide = .ok false ∧
    (mk "id" .less (.int 9007199254740992)).holds wide = .ok false := by
  have hr : ofInt? 9007199254740993 = ofInt? 9007199254740992 := by decide +kernel
  obtain ⟨x, hx⟩ := exists_ofInt? (n := 9007199254740992) (by decide +kernel)
  rw [hr, hx]
  refine ⟨⟨rfl, rfl⟩, equals_int _ _, ?_, ?_⟩
  · exact (ordered_int _ (hr.trans hx) hx).trans (congrArg _ x.less_irrefl)
  · exact (ordered_int _ (hr.trans hx) hx).trans (congrArg _ x.less_irrefl)

end RecordQuery.Condition
