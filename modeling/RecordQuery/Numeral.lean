import RecordQuery.Double.Decimal

/-!
# Numerals

A numeral is an optional sign, digits with at most one point among or
around them, and an optional exponent. Digits may come from any script.
-/

namespace RecordQuery

structure Numeral where
  negative : Bool
  whole : List Nat
  fraction : Option (List Nat)
  exponent : Option Int

namespace Numeral

def signOf : List Char → Bool × List Char
  | '-' :: rest => (true, rest)
  | '+' :: rest => (false, rest)
  | text => (false, text)

/-- An exponent part at the start of a text. Without a digit there is none,
and the text is left as it was. -/
def exponentOf (text : List Char) : Option Int × List Char :=
  match text with
  | c :: rest =>
    if c == 'e' || c == 'E' then
      let (negative, digits) := signOf rest
      match Text.leadingDigits digits with
      | ([], _) => (none, text)
      | (ds, after) =>
        let n : Int := Text.ofDigits ds
        (some (if negative then -n else n), after)
    else (none, text)
  | [] => (none, text)

/-- Digits and point at the start of a text: a digit before the point or,
failing that, one after it. -/
def mantissaOf (text : List Char) : Option (List Nat × Option (List Nat) × List Char) :=
  match Text.leadingDigits text with
  | ([], '.' :: rest) =>
    match Text.leadingDigits rest with
    | ([], _) => none
    | (fraction, after) => some ([], some fraction, after)
  | ([], _) => none
  | (whole, '.' :: rest) =>
    let (fraction, after) := Text.leadingDigits rest
    some (whole, some fraction, after)
  | (whole, after) => some (whole, none, after)

/-- The longest numeral a text starts with, and what follows it. -/
def scan (text : List Char) : Option (Numeral × List Char) :=
  let (negative, unsigned) := signOf text
  (mantissaOf unsigned).map fun (whole, fraction, afterDigits) =>
    let (exponent, after) := exponentOf afterDigits
    (⟨negative, whole, fraction, exponent⟩, after)

def ofText? (text : List Char) : Option Numeral :=
  match scan text with
  | some (numeral, []) => some numeral
  | _ => none

def isInteger (numeral : Numeral) : Bool := numeral.fraction.isNone && numeral.exponent.isNone

def toInt (numeral : Numeral) : Int :=
  let n : Int := Text.ofDigits numeral.whole
  if numeral.negative then -n else n

def toDouble (numeral : Numeral) : Double :=
  let fraction := numeral.fraction.getD []
  Double.ofDecimal numeral.negative (numeral.whole ++ fraction)
    (numeral.exponent.getD 0 - fraction.length)

/-- Integer numerals of more digits than this are refused. -/
def maxDigits : Nat := 4300

def scanInfinity (text : List Char) : Option (Double × List Char) :=
  let (negative, unsigned) := signOf text
  let word := "Infinity".toList
  if word.isPrefixOf unsigned then some (.infinite negative, unsigned.drop word.length) else none

end Numeral

end RecordQuery
