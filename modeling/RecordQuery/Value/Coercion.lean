import RecordQuery.Failure
import RecordQuery.Numeral
import RecordQuery.Text.Blank
import RecordQuery.Text.Case
import RecordQuery.Value.Equality

/-!
# Coercion

How loosely typed values meet: as text to search in, as numbers to order,
and as literals written in a query.
-/

namespace RecordQuery.Value

/-- A number as it is searched for: a whole number below 10²¹ has no
fraction. -/
def numberText : Double → List Char
  | .finite negative units =>
    if units % Double.unit == 0 && units < Nat.pow 10 21 * Double.unit then
      Text.intText (Double.signed negative (units / Double.unit))
    else Double.json.write (.finite negative units)
  | x => Double.json.write x

def integerText (n : Int) : Except Failure (List Char) :=
  (Double.ofInt? n).elim (.error .integerOutOfRange) fun _ => .ok (Text.intText n)

mutual
def searchText : Value → Except Failure (List Char)
  | null => .ok []
  | bool b => .ok (if b then "true".toList else "false".toList)
  | int n => integerText n
  | float x => .ok (numberText x)
  | text s => .ok s.toList
  | list items => do .ok ([','].intercalate (← searchTexts items))
  | object fields => .ok (object fields).quoted
def searchTexts : List Value → Except Failure (List (List Char))
  | [] => .ok []
  | item :: rest => do
    let first ← item.searchText
    let others ← searchTexts rest
    .ok (first :: others)
end

def floatOfInt (n : Int) : Except Failure Double :=
  match Double.ofInt? n with
  | some x => .ok x
  | none => .error .integerOutOfRange

/-- Number that a whole text stands for; blank text is zero. -/
def numberOfText (s : List Char) : Double :=
  let trimmed := Text.trim s
  if trimmed.isEmpty then Double.zero
  else match Numeral.ofText? trimmed with
    | some numeral => numeral.toDouble
    | none =>
      match Numeral.scanInfinity trimmed with
      | some (x, []) => x
      | _ => .nan

def toNumber : Value → Except Failure Double
  | null => .ok Double.zero
  | bool b => floatOfInt (if b then 1 else 0)
  | int n => floatOfInt n
  | float x => .ok x
  | text s => .ok (numberOfText s.toList)
  | _ => .ok .nan

/-- The longest numeral a text starts with, after blanks. -/
def leadingNumber (s : List Char) : Double :=
  let rest := Text.trimStart s
  match Numeral.scan rest with
  | some (numeral, _) => numeral.toDouble
  | none =>
    match Numeral.scanInfinity rest with
    | some (x, _) => x
    | none => .nan

def parseFloat : Value → Except Failure Double
  | null | bool _ => .ok .nan
  | int n => floatOfInt n
  | float x => .ok x
  | value => do .ok (leadingNumber (← value.searchText))

def asNumber : Value → Value
  | bool b => int (if b then 1 else 0)
  | value => value

def sameNumber (x y : Double) : Bool := samePlace (float x) (float y)

def looseEquals (left right : Value) : Except Failure Bool :=
  match left.asNumber, right.asNumber with
  | null, null => .ok true
  | null, _ | _, null => .ok false
  | text s, text t => .ok (s == t)
  | text s, b =>
    if b.isNumber then do .ok (sameNumber (numberOfText s.toList) (← b.toNumber)) else .ok false
  | a, text t =>
    if a.isNumber then do .ok (sameNumber (← a.toNumber) (numberOfText t.toList)) else .ok false
  | a, b => .ok (a.same b)

/-- A text between double quotes; a single quote character counts as both. -/
def unquoted? : List Char → Option (List Char)
  | '"' :: rest =>
    match rest.reverse with
    | [] => some []
    | '"' :: inner => some inner.reverse
    | _ => none
  | _ => none

def ofNumeral (written : List Char) (numeral : Numeral) : Except Failure Value :=
  if numeral.isInteger then
    if Numeral.maxDigits < numeral.whole.length then
      .error (.tooManyDigits numeral.whole.length)
    else .ok (int numeral.toInt)
  else if numeral.toDouble.isFinite then .ok (float numeral.toDouble)
  else .ok (text (String.ofList written))

/-- The right-hand side of a comparison: a quoted text, `NULL`, `true` or
`false` in any case, a finite number, or else the trimmed text itself. -/
def parseLiteral (given : List Char) : Except Failure Value :=
  let literal := Text.trim given
  match unquoted? literal with
  | some inner => .ok (text (String.ofList inner))
  | none =>
    if literal == "NULL".toList then .ok null
    else if Text.lower literal == "true".toList then .ok (bool true)
    else if Text.lower literal == "false".toList then .ok (bool false)
    else match Numeral.ofText? literal with
      | some numeral => ofNumeral literal numeral
      | none => .ok (text (String.ofList literal))

end RecordQuery.Value
