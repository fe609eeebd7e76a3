/-!
# Encodings of all characters

Texts in units of one byte, of two or of four. A mark at the start may tell
the order of the bytes of a unit. The main statement is that the bytes of a
text are read back as that text. In units of two bytes a character beyond
U+FFFF is a pair of surrogates, and half a pair stands for no character.
-/

namespace RecordQuery.Text

def isHighSurrogate (code : Nat) : Bool := 0xd800 ≤ code && code < 0xdc00

def isLowSurrogate (code : Nat) : Bool := 0xdc00 ≤ code && code < 0xe000

def units (c : Char) : List Nat :=
  if c.toNat < 0x10000 then [c.toNat]
  else [0xd800 + (c.toNat - 0x10000) / 0x400, 0xdc00 + (c.toNat - 0x10000) % 0x400]

/-- The character of a code point; the replacement character if there is
none. -/
def charOf (code : Nat) : Char := if code.isValidChar then Char.ofNat code else '\ufffd'

def ofUnits : List Nat → List Char
  | [] => []
  | [code] => [charOf code]
  | high :: low :: rest =>
    if isHighSurrogate high && isLowSurrogate low then
      charOf (0x10000 + (high - 0xd800) * 0x400 + (low - 0xdc00)) :: ofUnits rest
    else charOf high :: ofUnits (low :: rest)

end RecordQuery.Text

namespace RecordQuery.Encoding

def utf8? (bytes : ByteArray) : Option (List Char) := (String.fromUTF8? bytes).map String.toList

theorem utf8?_toUTF8 (s : String) : utf8? s.toUTF8 = some s.toList := by
  have h : s.toUTF8.IsValidUTF8 := s.isValidUTF8
  simp only [utf8?, String.fromUTF8?, dif_pos h]
  rfl

theorem utf8?_ofList (text : List Char) : utf8? (String.ofList text).toUTF8 = some text := by
  rw [utf8?_toUTF8, String.toList_ofList]

def unmarked : List Char → List Char
  | '\ufeff' :: text => text
  | text => text

/-! ### Units of two bytes -/

def pairUnits? (bigEndian : Bool) : List Nat → Option (List Nat)
  | [] => some []
  | [_] => none
  | a :: b :: rest =>
    (pairUnits? bigEndian rest).map ((if bigEndian then 256 * a + b else 256 * b + a) :: ·)

def isPaired : List Nat → Bool
  | [] => true
  | [code] => !(Text.isHighSurrogate code || Text.isLowSurrogate code)
  | high :: low :: rest =>
    if Text.isHighSurrogate high then Text.isLowSurrogate low && isPaired rest
    else !Text.isLowSurrogate high && isPaired (low :: rest)

def ofPairs? (bigEndian : Bool) (bytes : List Nat) : Option (List Char) := do
  let units ← pairUnits? bigEndian bytes
  if isPaired units then some (Text.ofUnits units) else none

/-- Units whose order a mark tells, which only an empty text can lack. -/
def ofMarkedPairs? : List Nat → Option (List Char)
  | [] => some []
  | 0xff :: 0xfe :: rest => ofPairs? false rest
  | 0xfe :: 0xff :: rest => ofPairs? true rest
  | _ => none

/-! ### Units of four bytes -/

def charOf? (number : Nat) : Option Char :=
  if number.isValidChar then some (Char.ofNat number) else none

def ofQuads? (bigEndian : Bool) : List Nat → Option (List Char)
  | [] => some []
  | a :: b :: c :: d :: rest => do
    let number :=
      if bigEndian then ((a * 256 + b) * 256 + c) * 256 + d
      else ((d * 256 + c) * 256 + b) * 256 + a
    let char ← charOf? number
    (ofQuads? bigEndian rest).map (char :: ·)
  | _ => none

def ofMarkedQuads? : List Nat → Option (List Char)
  | [] => some []
  | 0xff :: 0xfe :: 0 :: 0 :: rest => ofQuads? false rest
  | 0 :: 0 :: 0xfe :: 0xff :: rest => ofQuads? true rest
  | _ => none

/-! ### Seven bits -/

structure Digits where
  bits : Nat
  count : Nat
  units : List Nat

def Digits.none : Digits := ⟨0, 0, []⟩

def digit? (byte : Nat) : Option Nat :=
  if 0x41 ≤ byte ∧ byte ≤ 0x5a then some (byte - 0x41)
  else if 0x61 ≤ byte ∧ byte ≤ 0x7a then some (byte - 0x61 + 26)
  else if 0x30 ≤ byte ∧ byte ≤ 0x39 then some (byte - 0x30 + 52)
  else if byte = 0x2b then some 62
  else if byte = 0x2f then some 63
  else Option.none

def Digits.push (digits : Digits) (digit : Nat) : Digits :=
  let bits := digits.bits * 64 + digit
  let count := digits.count + 6
  if count < 16 then { digits with bits := bits, count := count }
  else
    let rest := count - 16
    ⟨bits % Nat.pow 2 rest, rest, bits / Nat.pow 2 rest :: digits.units⟩

/-- The text of the units. The bits that are left have to be few and
zero. -/
def Digits.text? (digits : Digits) : Option (List Char) :=
  let units := digits.units.reverse
  if digits.count < 6 && digits.bits = 0 && isPaired units then some (Text.ofUnits units)
  else Option.none

/-- Text of seven bits. After a plus sign come digits, which a hyphen ends
or any other byte; a plus sign and a hyphen are a plus sign. -/
def ofSevenBits? (digits : Option Digits) : List Nat → Option (List Char)
  | [] =>
    match digits with
    | some digits => digits.text?
    | Option.none => some []
  | byte :: rest =>
    match digits, digit? byte with
    | some digits, some digit => ofSevenBits? (some (digits.push digit)) rest
    | some digits, Option.none => do
      let before ← digits.text?
      if byte = 0x2d then (ofSevenBits? Option.none rest).map (before ++ ·)
      else if byte < 0x80 then
        (ofSevenBits? Option.none rest).map (before ++ Char.ofNat byte :: ·)
      else Option.none
    | Option.none, _ =>
      if byte = 0x2b then
        match rest with
        | 0x2d :: more => (ofSevenBits? Option.none more).map ('+' :: ·)
        | [] => some []
        | next :: more => do ofSevenBits? (some (Digits.none.push (← digit? next))) more
      else if byte < 0x80 then (ofSevenBits? Option.none rest).map (Char.ofNat byte :: ·)
      else Option.none

end RecordQuery.Encoding
