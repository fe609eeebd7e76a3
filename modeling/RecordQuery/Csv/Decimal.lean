import RecordQuery.Double
import RecordQuery.Text.Digit

/-!
# Decimals in cells

A decimal in a cell is read into binary64 step by step: its first 17 digits
one after the other, each step being rounded, and then one scaling by a
power of ten that is itself rounded. So it need not be the nearest number.
-/

namespace RecordQuery.Csv

def isSpace (c : Char) : Bool := c == ' ' || (9 ≤ c.toNat && c.toNat ≤ 13)

def skipSpaces (text : List Char) : List Char := text.dropWhile isSpace

def digitsOf (text : List Char) : List Nat :=
  (text.takeWhile Char.isDigit).map fun c => c.toNat - '0'.toNat

def signOf : List Char → Bool × List Char
  | '-' :: rest => (true, rest)
  | '+' :: rest => (false, rest)
  | text => (false, text)

def round53 (n : Nat) : Nat :=
  Double.roundDiv n (Double.spacing n) * Double.spacing n

/-- Digits taken one after the other, each product and sum being rounded. -/
def accumulate (digits : List Nat) : Nat :=
  digits.foldl (fun n digit => round53 (round53 (10 * n) + digit)) 0

/-- A number scaled by a power of ten that is itself rounded; far below one
in two steps, and zero without a sign once that is too far. None if the
power is out of range. -/
def scale? (negative : Bool) (n : Nat) (exponent : Int) : Option Double :=
  let power := fun k : Nat => round53 (Nat.pow 10 k)
  if 308 < exponent then none
  else if 0 < exponent then some (Double.nearest negative (n * power exponent.natAbs) 1)
  else if -308 ≤ exponent then some (Double.nearest negative n (power exponent.natAbs))
  else if exponent < -616 then some .zero
  else match Double.nearest negative n (power (exponent.natAbs - 308)) with
    | .finite _ units => some (Double.nearest negative units (Double.unit * power 308))
    | x => some x

/-- Digits that count in a decimal; those that follow only shift the
point. -/
def significant : Nat := 17

/-- Exponents are kept in 32 bits, and wrap around. -/
def wrap (exponent : Int) : Int := exponent.bmod (Nat.pow 2 32)

def exponentOf (text : List Char) : Option Int × List Char :=
  match text with
  | c :: rest =>
    if c == 'e' || c == 'E' then
      let (negative, unsigned) := signOf rest
      match (digitsOf unsigned).take significant with
      | [] => (none, text)
      | digits =>
        let exponent := wrap (Text.ofDigits digits)
        (some (if negative then -exponent else exponent), unsigned.drop digits.length)
    else (none, text)
  | [] => (none, text)

structure Decimal where
  value : Double
  isWhole : Bool

def decimal? (cell : List Char) : Option Decimal := do
  let (negative, unsigned) := signOf (skipSpaces cell)
  let whole := digitsOf unsigned
  let afterWhole := unsigned.dropWhile Char.isDigit
  let (fraction, afterFraction) : List Nat × List Char :=
    match afterWhole with
    | '.' :: rest => (digitsOf rest, rest.dropWhile Char.isDigit)
    | _ => ([], afterWhole)
  let (exponent, after) := exponentOf afterFraction
  if (whole ++ fraction).isEmpty || !(skipSpaces after).isEmpty then none
  else
    let kept := (whole ++ fraction).take significant
    let shift : Int := whole.length - kept.length
    let x ← scale? negative (accumulate kept) (wrap (shift + exponent.getD 0))
    if x.isFinite then some ⟨x, (skipSpaces afterWhole).isEmpty⟩ else none

def infinities : List (String × Double) := [
  ("inf", .infinite false), ("+inf", .infinite false), ("-inf", .infinite true),
  ("infinity", .infinite false), ("+infinity", .infinite false), ("-infinity", .infinite true)]

def infinity? (cell : List Char) : Option Double :=
  infinities.lookup (String.ofList (cell.map Char.toLower))

def number? (cell : List Char) : Option Decimal :=
  (decimal? cell).or ((infinity? cell).map fun x => ⟨x, false⟩)

end RecordQuery.Csv
