/-!
# Binary64 numbers

The finite numbers are whole multiples of 2⁻¹⁰⁷⁴, the least positive one, so
each is kept as its sign and a count of those units. Rounding, comparison
and conversion are then exact arithmetic on whole numbers.
-/

namespace RecordQuery

inductive Double where
  | finite (negative : Bool) (units : Nat)
  | infinite (negative : Bool)
  | nan
deriving DecidableEq, Inhabited

namespace Double

def unit : Nat := Nat.pow 2 1074

/-- Magnitudes from here on are out of range: 2¹⁰²⁴, in units. -/
def bound : Nat := Nat.pow 2 2098

def zero : Double := finite false 0

/-- A quotient rounded to a whole number, a half to the even one. -/
def roundDiv (num den : Nat) : Nat :=
  let quotient := num / den
  let twice := 2 * (num % den)
  if twice < den then quotient
  else if den < twice then quotient + 1
  else quotient + quotient % 2

/-- Distance between neighbours at a magnitude: 53 significant bits are
kept, and never less than one unit. -/
def spacing (units : Nat) : Nat := Nat.pow 2 (units.log2 - 52)

def nearest (negative : Bool) (num den : Nat) : Double :=
  let step := spacing (num * unit / den)
  let units := roundDiv (num * unit) (den * step) * step
  if units < bound then finite negative units else infinite negative

def isFinite : Double → Bool
  | finite .. => true
  | _ => false

def signed (negative : Bool) (units : Nat) : Int := if negative then -units else units

/-- Where a number lies: before, on or after the finite line, and where on
it. Both zeros lie at one place, and what is not a number lies nowhere. -/
def place? : Double → Option (Int × Int)
  | finite negative units => some (0, signed negative units)
  | infinite negative => some (if negative then -1 else 1, 0)
  | nan => none

def placeOfInt (n : Int) : Int × Int := (0, n * unit)

def before (a b : Int × Int) : Bool := a.1 < b.1 || (a.1 == b.1 && a.2 < b.2)

def less (x y : Double) : Bool :=
  match x.place?, y.place? with
  | some a, some b => before a b
  | _, _ => false

def ofInt? (n : Int) : Option Double :=
  match nearest (n < 0) n.natAbs 1 with
  | .infinite _ => none
  | x => some x

theorem less_irrefl (x : Double) : x.less x = false := by
  cases x <;> simp [less, place?, before]

theorem before_asymm {a b : Int × Int} (h : before a b = true) : before b a = false := by
  simp [before] at h ⊢
  omega

theorem less_asymm {x y : Double} (h : x.less y = true) : y.less x = false := by
  unfold less at h ⊢
  split at h
  · next ha hb => simp only [ha, hb, before_asymm h]
  · cases h

end Double

end RecordQuery
