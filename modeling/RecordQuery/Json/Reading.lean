import RecordQuery.Numeral
import RecordQuery.Text.Encoding.Unicode
import RecordQuery.Value

/-!
# Reading JSON

One value with nothing but blanks around it. The words `NaN`, `Infinity`
and `-Infinity` are numbers, a numeral with a point or an exponent is a
float and any other an integer. The last of several fields of one name
counts, in the place of the first.
-/

namespace RecordQuery.Json

def isBlank (c : Char) : Bool := c == ' ' || c == '\t' || c == '\n' || c == '\r'

def skipBlanks (text : List Char) : List Char := text.dropWhile isBlank

export Text (hexValue?)

def unitOf? (a b c d : Char) : Option Nat := do
  some (((← hexValue? a) * 16 + (← hexValue? b)) * 256 + (← hexValue? c) * 16 + (← hexValue? d))

def unescape? (c : Char) : Option Char :=
  match c with
  | '"' | '\\' | '/' => some c
  | 'n' => some '\n'
  | 'r' => some '\r'
  | 't' => some '\t'
  | 'b' => some '\x08'
  | 'f' => some '\x0c'
  | _ => none

/-- Code units up to the closing quote, and what follows it. Control
characters have to be escaped. -/
def codes? : List Char → Option (List Nat × List Char)
  | [] => none
  | '"' :: rest => some ([], rest)
  | '\\' :: 'u' :: a :: b :: c :: d :: rest => do
    let code ← unitOf? a b c d
    let (more, after) ← codes? rest
    some (code :: more, after)
  | '\\' :: c :: rest => do
    let meant ← unescape? c
    let (more, after) ← codes? rest
    some (meant.toNat :: more, after)
  | c :: rest =>
    if c < ' ' || c == '\\' then none
    else do
      let (more, after) ← codes? rest
      some (c.toNat :: more, after)

def textAfterQuote? (rest : List Char) : Option (List Char × List Char) :=
  (codes? rest).map fun (codes, after) => (Text.ofUnits codes, after)

def asciiDigits (text : List Char) : List Nat × List Char :=
  ((text.takeWhile Char.isDigit).map fun c => c.toNat - '0'.toNat, text.dropWhile Char.isDigit)

/-- Digits after a point; without one the point does not belong to the
number. -/
def fractionOf (text : List Char) : Option (List Nat) × List Char :=
  match text with
  | '.' :: rest =>
    match asciiDigits rest with
    | ([], _) => (none, text)
    | (digits, after) => (some digits, after)
  | _ => (none, text)

def exponentOf (text : List Char) : Option Int × List Char :=
  match text with
  | c :: rest =>
    if c == 'e' || c == 'E' then
      let (negative, unsigned) := Numeral.signOf rest
      match asciiDigits unsigned with
      | ([], _) => (none, text)
      | (digits, after) => (some (Double.signed negative (Text.ofDigits digits)), after)
    else (none, text)
  | [] => (none, text)

def wholeOf (text : List Char) : List Nat × List Char :=
  match text with
  | '0' :: rest => ([0], rest)
  | _ => asciiDigits text

def numeral? (text : List Char) : Option (Numeral × List Char) :=
  let (negative, unsigned) : Bool × List Char :=
    match text with
    | '-' :: rest => (true, rest)
    | _ => (false, text)
  match wholeOf unsigned with
  | ([], _) => none
  | (whole, afterWhole) =>
    let (fraction, afterFraction) := fractionOf afterWhole
    let (exponent, after) := exponentOf afterFraction
    some (⟨negative, whole, fraction, exponent⟩, after)

/-- An integer of too many digits is not read. -/
def number? (text : List Char) : Option (Value × List Char) := do
  let (numeral, after) ← numeral? text
  if numeral.isInteger then
    if Numeral.maxDigits < numeral.whole.length then none else some (.int numeral.toInt, after)
  else some (.float numeral.toDouble, after)

def words : List (List Char × Value) := [
  ("null".toList, .null), ("true".toList, .bool true), ("false".toList, .bool false),
  ("NaN".toList, .float .nan), ("Infinity".toList, .float (.infinite false)),
  ("-Infinity".toList, .float (.infinite true))]

def word? (text : List Char) : Option (Value × List Char) :=
  (words.find? fun word => word.1.isPrefixOf text).map fun word =>
    (word.2, text.drop word.1.length)

mutual
def valueWithin : Nat → List Char → Option (Value × List Char)
  | 0, _ => none
  | fuel + 1, text =>
    match text with
    | '"' :: rest => (textAfterQuote? rest).map fun (s, after) => (.text (String.ofList s), after)
    | '[' :: rest =>
      match skipBlanks rest with
      | ']' :: after => some (.list [], after)
      | inner => (itemsWithin fuel inner).map fun (items, after) => (.list items, after)
    | '\x7b' :: rest =>
      match skipBlanks rest with
      | '\x7d' :: after => some (.object [], after)
      | inner => (fieldsWithin fuel inner).map fun (fields, after) =>
        (.object (Record.ofFields fields), after)
    | _ => (word? text).or (number? text)
def itemsWithin : Nat → List Char → Option (List Value × List Char)
  | 0, _ => none
  | fuel + 1, text => do
    let (item, after) ← valueWithin fuel text
    match skipBlanks after with
    | ',' :: rest =>
      let (items, after) ← itemsWithin fuel (skipBlanks rest)
      some (item :: items, after)
    | ']' :: rest => some ([item], rest)
    | _ => none
def fieldsWithin : Nat → List Char → Option (List (String × Value) × List Char)
  | 0, _ => none
  | fuel + 1, text =>
    match text with
    | '"' :: rest => do
      let (name, afterName) ← textAfterQuote? rest
      match skipBlanks afterName with
      | ':' :: rest =>
        let (value, after) ← valueWithin fuel (skipBlanks rest)
        let field := (String.ofList name, value)
        match skipBlanks after with
        | ',' :: rest =>
          let (fields, after) ← fieldsWithin fuel (skipBlanks rest)
          some (field :: fields, after)
        | '\x7d' :: rest => some ([field], rest)
        | _ => none
      | _ => none
    | _ => none
end

/-- The value that a text holds. Every bracket takes a character and two
steps, so the steps never run out. -/
def read? (text : List Char) : Option Value := do
  let (value, after) ← valueWithin (2 * text.length + 2) (skipBlanks text)
  if (skipBlanks after).isEmpty then some value else none

end RecordQuery.Json
