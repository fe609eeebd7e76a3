import RecordQuery.Proofs.Condition.Failing
import RecordQuery.Proofs.Double.Range
import RecordQuery.Proofs.Value.Stored

/-!
# The two equalities

Strict equality of scalars looks at one thing in each of them, a number's
place among it, and so is an equivalence; what is not a number has no place
and equals its like. Loose equality is symmetric, failures included, and
holds wherever strict equality does, except between values that are not
numbers.
-/

namespace RecordQuery

/-- Nothing, a boolean, a number or a text. -/
abbrev Scalar := { value : Value // value.isScalar = true }

/-- What strict equality looks at in a scalar. -/
inductive Identity where
  | null
  | bool (b : Bool)
  | number (place? : Option (Int × Int))
  | text (s : String)

namespace Value

variable {a b : Value}

def identity? : Value → Option Identity
  | null => some .null
  | bool b => some (.bool b)
  | int n => some (.number (int n).place?)
  | float x => some (.number (float x).place?)
  | text s => some (.text s)
  | _ => none

-- ---------------------------------------------------------------------------
-- Places
-- ---------------------------------------------------------------------------

theorem samePlace_iff :
    samePlace a b = true ↔ ∃ place, a.place? = some place ∧ b.place? = some place := by
  unfold samePlace
  cases a.place? with
  | none => exact iff_of_false Bool.false_ne_true fun ⟨_, h, _⟩ => nomatch h
  | some p =>
    cases b.place? with
    | none => exact iff_of_false Bool.false_ne_true fun ⟨_, _, h⟩ => nomatch h
    | some q =>
      refine beq_iff_eq.trans ⟨fun h => ⟨p, rfl, congrArg some h.symm⟩, ?_⟩
      rintro ⟨place, hp, hq⟩
      exact Option.some.inj (hp.trans hq.symm)

theorem samePlace_comm (a b : Value) : samePlace a b = samePlace b a := by
  rw [Bool.eq_iff_iff, samePlace_iff, samePlace_iff]
  exact exists_congr fun _ => and_comm

theorem sameNumber_comm (x y : Double) : sameNumber x y = sameNumber y x :=
  samePlace_comm (float x) (float y)

theorem eq_nan_of_place? (hn : a.isNumber = true) (h : a.place? = none) : a = float .nan := by
  cases a with
  | int n => cases h
  | float x =>
    cases x with
    | nan => rfl
    | _ => cases h
  | _ => cases hn

-- ---------------------------------------------------------------------------
-- Strict equality
-- ---------------------------------------------------------------------------

theorem identity?_number (h : a.isNumber = true) : a.identity? = some (.number a.place?) := by
  cases a with
  | int n => rfl
  | float x => rfl
  | _ => cases h

theorem strictEquals_of_numbers (ha : a.isNumber = true) (hb : b.isNumber = true)
    (hn : ¬ (a = float .nan ∧ b = float .nan)) : strictEquals a b = samePlace a b := by
  unfold strictEquals
  split
  · cases ha
  · cases ha
  · cases hb
  · rw [if_pos (Bool.and_eq_true_iff.mpr ⟨ha, hb⟩)]
    split
    · exact absurd ⟨rfl, rfl⟩ hn
    · rfl

theorem strictEquals_numbers (ha : a.isNumber = true) (hb : b.isNumber = true) :
    strictEquals a b = true ↔ a.place? = b.place? := by
  by_cases hn : a = float .nan ∧ b = float .nan
  · obtain ⟨rfl, rfl⟩ := hn
    exact iff_of_true rfl rfl
  · rw [strictEquals_of_numbers ha hb hn, samePlace_iff]
    constructor
    · rintro ⟨place, hp, hq⟩
      rw [hp, hq]
    · intro he
      cases hp : b.place? with
      | some place => exact ⟨place, he.trans hp, rfl⟩
      | none => exact absurd ⟨eq_nan_of_place? ha (he.trans hp), eq_nan_of_place? hb hp⟩ hn

/-- Scalars that are not both numbers are equal if they are of one kind and
the same. -/
theorem strictEquals_iff (ha : a.isScalar = true) (hb : b.isScalar = true) :
    strictEquals a b = true ↔ a.identity? = b.identity? := by
  by_cases hn : a.isNumber = true ∧ b.isNumber = true
  · rw [strictEquals_numbers hn.1 hn.2, identity?_number hn.1, identity?_number hn.2,
      Option.some.injEq, Identity.number.injEq]
  · cases a with
    | list items => cases ha
    | object fields => cases ha
    | _ => cases b <;> simp_all [isScalar, isNumber, identity?, strictEquals, kind, same]

-- ---------------------------------------------------------------------------
-- Loose equality
-- ---------------------------------------------------------------------------

theorem looseEquals_asNumber (a b : Value) :
    a.looseEquals b = a.asNumber.looseEquals b.asNumber := by
  have hi (value : Value) : value.asNumber.asNumber = value.asNumber := by
    cases value <;> rfl
  rw [looseEquals, looseEquals, hi, hi]

theorem asNumber_cases (h : a.isScalar = true) :
    a.asNumber = null ∨ a.asNumber.isNumber = true ∨ ∃ s, a.asNumber = text s := by
  cases a with
  | null => exact .inl rfl
  | bool b => exact .inr (.inl rfl)
  | int n => exact .inr (.inl rfl)
  | float x => exact .inr (.inl rfl)
  | text s => exact .inr (.inr ⟨s, rfl⟩)
  | _ => cases h

theorem looseEquals_null (h : a.isNumber = true) :
    a.looseEquals null = .ok false ∧ null.looseEquals a = .ok false := by
  cases a with
  | int n => exact ⟨rfl, rfl⟩
  | float x => exact ⟨rfl, rfl⟩
  | _ => cases h

theorem looseEquals_numbers (ha : a.isNumber = true) (hb : b.isNumber = true) :
    a.looseEquals b = .ok (samePlace a b) := by
  cases a with
  | int n =>
    cases b with
    | int m => simp [looseEquals, asNumber, same]
    | float y => simp [looseEquals, asNumber, same]
    | _ => cases hb
  | float x =>
    cases b with
    | int m => simp [looseEquals, asNumber, same]
    | float y => simp [looseEquals, asNumber, same]
    | _ => cases hb
  | _ => cases ha

theorem looseEquals_number_text (h : a.isNumber = true) (s : String) :
    a.looseEquals (text s) = a.toNumber.map fun x => sameNumber x (numberOfText s.toList) := by
  cases a with
  | int n =>
    show (floatOfInt n >>= fun x => .ok (sameNumber x _)) = (floatOfInt n).map _
    cases floatOfInt n <;> rfl
  | float x => rfl
  | _ => cases h

theorem looseEquals_text_number (h : a.isNumber = true) (s : String) :
    (text s).looseEquals a = a.toNumber.map fun x => sameNumber x (numberOfText s.toList) := by
  cases a with
  | int n =>
    show (floatOfInt n >>= fun x => .ok (sameNumber _ x)) = (floatOfInt n).map _
    cases floatOfInt n with
    | error failure => rfl
    | ok x => exact congrArg Except.ok (sameNumber_comm _ x)
  | float x => exact congrArg Except.ok (sameNumber_comm _ x)
  | _ => cases h

theorem looseEquals_comm (ha : a.isScalar = true) (hb : b.isScalar = true) :
    a.looseEquals b = b.looseEquals a := by
  rw [looseEquals_asNumber a b, looseEquals_asNumber b a]
  rcases asNumber_cases ha with ha | ha | ⟨s, ha⟩ <;> rcases asNumber_cases hb with hb | hb | ⟨t, hb⟩
  · rw [ha, hb]
  · rw [ha, (looseEquals_null hb).1, (looseEquals_null hb).2]
  · rw [ha, hb]
    rfl
  · rw [hb, (looseEquals_null ha).1, (looseEquals_null ha).2]
  · rw [looseEquals_numbers ha hb, looseEquals_numbers hb ha, samePlace_comm]
  · rw [hb, looseEquals_number_text ha, looseEquals_text_number ha]
  · rw [ha, hb]
    rfl
  · rw [ha, looseEquals_number_text hb, looseEquals_text_number hb]
  · rw [ha, hb]
    exact congrArg Except.ok Bool.beq_comm

theorem looseEquals_self (h : a.isScalar = true) (hn : a ≠ float .nan) :
    a.looseEquals a = .ok true := by
  rw [looseEquals_asNumber]
  rcases asNumber_cases h with ha | ha | ⟨s, ha⟩
  · rw [ha]
    rfl
  · rw [looseEquals_numbers ha ha]
    refine congrArg Except.ok (samePlace_iff.mpr ?_)
    cases hp : a.asNumber.place? with
    | some place => exact ⟨place, rfl, rfl⟩
    | none =>
      have hf := eq_nan_of_place? ha hp
      cases a with
      | float x => exact absurd hf hn
      | _ => cases hf
  · rw [ha]
    exact congrArg Except.ok (beq_self_eq_true s)

theorem isNumber_of_identity? {place : Option (Int × Int)}
    (h : a.identity? = some (.number place)) : a.isNumber = true := by
  cases a with
  | int n => rfl
  | float x => rfl
  | _ => cases h

theorem eq_of_identity? (hs : a.isScalar = true) (hn : a.isNumber = false)
    (h : a.identity? = b.identity?) : a = b := by
  cases a with
  | null | bool _ | text _ =>
    cases b <;> cases h
    rfl
  | int _ | float _ => cases hn
  | list _ | object _ => cases hs

theorem looseEquals_of_strictEquals (ha : a.isScalar = true) (hb : b.isScalar = true)
    (h : strictEquals a b = true) (hn : ¬ (a = float .nan ∧ b = float .nan)) :
    a.looseEquals b = .ok true := by
  have hi := (strictEquals_iff ha hb).mp h
  cases hna : a.isNumber with
  | true =>
    have hnb := isNumber_of_identity? (hi.symm.trans (identity?_number hna))
    rw [looseEquals_numbers hna hnb, ← strictEquals_of_numbers hna hnb hn, h]
  | false =>
    obtain rfl := eq_of_identity? ha hna hi
    exact looseEquals_self ha fun he => hn ⟨he, he⟩

-- ---------------------------------------------------------------------------
-- Laws
-- ---------------------------------------------------------------------------

/-- Over scalars strict equality is an equivalence that keeps booleans apart
from numbers, and numbers are equal where they have one place. Loose equality
gives the same verdict in either order or fails in both, for an integer that
no float is near to, and it holds of what is strictly equal unless that is
not a number. -/
theorem equalities_lawful :
    (Equivalence fun a b : Scalar => strictEquals a.1 b.1 = true) ∧
    (∀ a b : Scalar, a.1.isNumber = true → b.1.isNumber = true →
      (strictEquals a.1 b.1 = true ↔ a.1.place? = b.1.place?)) ∧
    (∀ (truth : Bool) (a : Scalar), a.1.isNumber = true →
      strictEquals (bool truth) a.1 = false ∧ strictEquals a.1 (bool truth) = false) ∧
    (∀ a b : Scalar, a.1.looseEquals b.1 = b.1.looseEquals a.1 ∧
      ∀ failure, a.1.looseEquals b.1 = .error failure → failure = .integerOutOfRange) ∧
    (∀ a b : Scalar, strictEquals a.1 b.1 = true → ¬ (a.1 = float .nan ∧ b.1 = float .nan) →
      a.1.looseEquals b.1 = .ok true) := by
  have hi (a b : Scalar) : strictEquals a.1 b.1 = true ↔ a.1.identity? = b.1.identity? :=
    strictEquals_iff a.2 b.2
  refine ⟨⟨fun a => ?_, fun {a b} h => ?_, fun {a b c} hab hbc => ?_⟩,
    fun _ _ => strictEquals_numbers, fun truth a hn => ?_,
    fun a b => ⟨looseEquals_comm a.2 b.2, fun _ => looseEquals_error⟩,
    fun a b => looseEquals_of_strictEquals a.2 b.2⟩
  · exact (hi a a).mpr rfl
  · exact (hi b a).mpr ((hi a b).mp h).symm
  · exact (hi a c).mpr (((hi a b).mp hab).trans ((hi b c).mp hbc))
  · obtain ⟨a, ha⟩ := a
    cases a with
    | int n => exact ⟨rfl, rfl⟩
    | float x => exact ⟨rfl, rfl⟩
    | _ => cases hn

/-- The number one is equal to the float of its place in both ways and is
strictly no boolean; the least integer beyond the floats cannot be compared with
a text in either order. -/
theorem equalities_of_integers :
    strictEquals (int 1) (float (.finite false Double.unit)) = true ∧
    (int 1).looseEquals (float (.finite false Double.unit)) = .ok true ∧
    strictEquals (bool true) (int 1) = false ∧
    (int Double.wholeBound).looseEquals (text "a") = .error .integerOutOfRange ∧
    (text "a").looseEquals (int Double.wholeBound) = .error .integerOutOfRange := by
  obtain ⟨-, hp, hb, hl, hs⟩ := equalities_lawful
  have one : strictEquals (int 1) (float (.finite false Double.unit)) = true := by
    refine (hp ⟨int 1, rfl⟩ ⟨float (.finite false Double.unit), rfl⟩ rfl rfl).mpr ?_
    show some ((0 : Int), 1 * (Double.unit : Int)) = some (0, (Double.unit : Int))
    rw [Int.one_mul]
  have outsized : (int Double.wholeBound).looseEquals (text "a") = .error .integerOutOfRange := by
    have hn : Double.ofInt? Double.wholeBound = none :=
      Option.not_isSome_iff_eq_none.mp
        (mt (Double.ofInt?_isSome_iff _).mp (by rw [Int.natAbs_natCast]; exact Nat.lt_irrefl _))
    rw [looseEquals_number_text rfl, toNumber, floatOfInt_eq, hn]
    rfl
  refine ⟨one, hs ⟨int 1, rfl⟩ ⟨float (.finite false Double.unit), rfl⟩ one (fun h => nomatch h.1),
    (hb true ⟨int 1, rfl⟩ rfl).1, outsized, ?_⟩
  rw [← (hl ⟨int Double.wholeBound, rfl⟩ ⟨text "a", rfl⟩).1, outsized]

end Value

end RecordQuery
