import RecordQuery.Double
import RecordQuery.Text.Digit

/-!
# Decimal forms of binary64 numbers

Reading takes the number nearest to a decimal. Writing takes the fewest
digits that read back, and of those the nearest: for each count of digits
the two neighbours of the number on that decimal grid are tried.
-/

namespace RecordQuery.Double

/-- The number nearest to `digits` × 10^`exponent`. Magnitudes that are out
of range on either side are settled before any power is formed. -/
def ofDecimal (negative : Bool) (digits : List Nat) (exponent : Int) : Double :=
  let significant := digits.dropWhile (· == 0)
  let magnitude := significant.length + exponent
  let n := Text.ofDigits significant
  if significant.isEmpty || magnitude < -330 then finite negative 0
  else if 310 < magnitude then infinite negative
  else if exponent < 0 then nearest negative n (Nat.pow 10 exponent.natAbs)
  else nearest negative (n * Nat.pow 10 exponent.natAbs) 1

/-- A positive number between two bounds that round to it, all in quarters
of a unit; the bounds count if the significand is even. -/
structure Interval where
  low : Nat
  mid : Nat
  high : Nat
  closed : Bool

/-- What rounds to a magnitude. Below a power of two the spacing halves. -/
def interval (units : Nat) : Interval :=
  let step := spacing units
  let below := if units == Nat.pow 2 units.log2 && 1 < step then step else 2 * step
  ⟨4 * units - below, 4 * units, 4 * units + 2 * step, units / step % 2 == 0⟩

structure Grid where
  digits : Nat
  exponent : Int

def Grid.scaled (grid : Grid) (quarters : Nat) : Nat × Nat :=
  let power := Nat.pow 10 grid.exponent.natAbs
  if grid.exponent < 0 then (grid.digits * (4 * unit), quarters * power)
  else (grid.digits * power * (4 * unit), quarters)

def Grid.within (grid : Grid) (range : Interval) : Bool :=
  let low := grid.scaled range.low
  let high := grid.scaled range.high
  if range.closed then low.2 ≤ low.1 && high.1 ≤ high.2
  else low.2 < low.1 && high.1 < high.2

def Grid.distance (grid : Grid) (range : Interval) : Nat :=
  let mid := grid.scaled range.mid
  (mid.1 - mid.2) + (mid.2 - mid.1)

/-- Decimal exponent of the leading digit of a positive magnitude. -/
def leadingExponent (units : Nat) : Int :=
  (Text.natText (units * Nat.pow 10 400 / unit)).length - 401

def gridBelow (units count : Nat) : Grid :=
  let exponent := leadingExponent units - count + 1
  let digits :=
    if exponent < 0 then units * Nat.pow 10 exponent.natAbs / unit
    else units / (unit * Nat.pow 10 exponent.natAbs)
  ⟨digits, exponent⟩

/-- The nearer of a grid point and its successor that reads back, the even
one on a tie. -/
def gridChoice? (units count : Nat) : Option Grid :=
  let range := interval units
  let lower := gridBelow units count
  let upper : Grid := ⟨lower.digits + 1, lower.exponent⟩
  match lower.within range, upper.within range with
  | false, false => none
  | true, false => some lower
  | false, true => some upper
  | true, true =>
    let a := lower.distance range
    let b := upper.distance range
    if a < b || (a == b && lower.digits % 2 == 0) then some lower else some upper

/-- The shortest decimal that reads back as a positive magnitude; seventeen
digits always do. -/
def shortest (units : Nat) : Grid :=
  match (List.range 17).findSome? fun n => gridChoice? units (n + 1) with
  | some grid => grid
  | none => gridBelow units 17

def scientific (units : Nat) : List Char × Int :=
  if units == 0 then (['0'], 0)
  else
    let grid := shortest units
    let digits := Text.natText grid.digits
    let kept := (digits.reverse.dropWhile (· == '0')).reverse
    (kept, grid.exponent + digits.length - 1)

/-- How numbers are written: positionally where the decimal exponent lies
from `least` on and below `beyond`, and by words where they are not finite. -/
structure Layout where
  least : Int
  beyond : Int
  infinity : List Char
  nan : List Char

def Layout.exponentText (exponent : Int) : List Char :=
  let digits := Text.natText exponent.natAbs
  'e' :: (if exponent < 0 then '-' else '+') :: List.replicate (2 - digits.length) '0' ++ digits

def Layout.magnitude (layout : Layout) (units : Nat) : List Char :=
  let (digits, exponent) := scientific units
  if exponent < layout.least || layout.beyond ≤ exponent then
    match digits with
    | first :: second :: rest => first :: '.' :: second :: rest ++ exponentText exponent
    | _ => digits ++ exponentText exponent
  else if exponent < 0 then
    '0' :: '.' :: List.replicate (exponent.natAbs - 1) '0' ++ digits
  else
    let whole := digits.take (exponent.natAbs + 1)
    let fraction := digits.drop (exponent.natAbs + 1)
    whole ++ List.replicate (exponent.natAbs + 1 - whole.length) '0' ++ '.' ::
      (if fraction.isEmpty then ['0'] else fraction)

def Layout.write (layout : Layout) : Double → List Char
  | .finite negative units => (if negative then ['-'] else []) ++ layout.magnitude units
  | .infinite negative => (if negative then ['-'] else []) ++ layout.infinity
  | .nan => layout.nan

/-- Positional from 10⁻⁴ up to 10¹⁶; a whole number keeps a fraction of
zero, and an exponent has a sign and two digits at least. -/
def plain : Layout := ⟨-4, 16, "inf".toList, "nan".toList⟩

def json : Layout := { plain with infinity := "Infinity".toList, nan := "NaN".toList }

end RecordQuery.Double
