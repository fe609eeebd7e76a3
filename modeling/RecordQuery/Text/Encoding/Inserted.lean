import RecordQuery.Text.Encoding.Unicode

/-!
# Texts of ASCII with inserted characters

The ASCII characters of a text come first. After the last hyphen, digits of
base 36 tell which other characters are inserted, and where. A number ends
with a digit below a threshold that depends on the numbers before it.
-/

namespace RecordQuery.Encoding.Inserted

/-- A digit of base 36: letters come before figures. -/
def digit? (byte : Nat) : Option Nat :=
  if 0x41 ≤ byte ∧ byte ≤ 0x5a then some (byte - 0x41)
  else if 0x61 ≤ byte ∧ byte ≤ 0x7a then some (byte - 0x61)
  else if 0x30 ≤ byte ∧ byte ≤ 0x39 then some (byte - 0x30 + 26)
  else none

/-- The threshold of a digit; `bias` is what the numbers before it lead
to. -/
def threshold (place bias : Nat) : Nat := max 1 (min 26 (36 * (place + 1) - bias))

def number? (bias : Nat) (place weight number : Nat) : List Nat → Option (Nat × List Nat)
  | [] => none
  | digit :: rest =>
    let number := number + digit * weight
    if digit < threshold place bias then some (number, rest)
    else number? bias (place + 1) (weight * (36 - threshold place bias)) number rest

theorem length_lt_of_number? {bias place weight number : Nat} {digits : List Nat}
    {found : Nat × List Nat} (h : number? bias place weight number digits = some found) :
    found.2.length < digits.length := by
  induction digits generalizing place weight number with
  | nil => simp [number?] at h
  | cons digit rest ih =>
    rw [number?] at h
    split at h
    · cases h
      simp
    · exact Nat.lt_succ_of_lt (ih h)

def reduce (delta steps : Nat) : Nat × Nat :=
  if 455 < delta then reduce (delta / 35) (steps + 36) else (delta, steps)
termination_by delta
decreasing_by exact Nat.div_lt_self (by omega) (by omega)

def adapt (delta : Nat) (isFirst : Bool) (length : Nat) : Nat :=
  let delta := if isFirst then delta / 700 else delta / 2
  let (delta, steps) := reduce (delta + delta / length) 0
  steps + 36 * delta / (delta + 38)

/-- Where the next character is put: the least number it can have, and the
place from which it is counted. -/
structure Position where
  least : Nat
  place : Nat
  bias : Nat
  isFirst : Bool

def Position.start : Position := ⟨0x80, 0, 72, true⟩

def insert? (position : Position) (text : List Char) (digits : List Nat) : Option (List Char) :=
  if digits.isEmpty then some text
  else
    match _h : number? position.bias 0 1 0 digits with
    | none => none
    | some (delta, rest) => do
      let count := text.length + 1
      let least := position.least + (position.place + delta) / count
      let place := (position.place + delta) % count
      let char ← charOf? least
      let next := ⟨least, place + 1, adapt delta position.isFirst count, false⟩
      insert? next (text.take place ++ char :: text.drop place) rest
termination_by digits.length
decreasing_by exact length_lt_of_number? _h

def text? (bytes : List Nat) : Option (List Char) := do
  let digits := (bytes.reverse.takeWhile (· != 0x2d)).reverse
  let plain := bytes.take (bytes.length - digits.length - 1)
  if bytes.any (0x80 ≤ ·) then none
  else
    insert? .start (plain.map Char.ofNat) (← digits.mapM digit?)

end RecordQuery.Encoding.Inserted
