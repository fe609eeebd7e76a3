import RecordQuery.Text.Encoding.Unicode

/-!
# Texts with escapes

Each byte stands for the character of its number, save for escapes: a
backslash with what follows it stands for one character.
-/

namespace RecordQuery.Encoding.Escaped

def hexDigit? (byte : Nat) : Option Nat :=
  if 0x30 ≤ byte ∧ byte ≤ 0x39 then some (byte - 0x30)
  else if 0x41 ≤ byte ∧ byte ≤ 0x46 then some (byte - 0x41 + 10)
  else if 0x61 ≤ byte ∧ byte ≤ 0x66 then some (byte - 0x61 + 10)
  else none

def hex? (count : Nat) (bytes : List Nat) : Option Nat := do
  let digits ← (bytes.take count).mapM hexDigit?
  if digits.length = count then some (digits.foldl (fun number digit => number * 16 + digit) 0)
  else none

def hexChar? (count : Nat) (bytes : List Nat) : Option (List Char × Nat) := do
  let char ← charOf? (← hex? count bytes)
  some ([char], count)

def isOctal (byte : Nat) : Bool := 0x30 ≤ byte && byte ≤ 0x37

def named : List (Char × Char) := [
  ('\\', '\\'), ('\'', '\''), ('"', '"'), ('a', '\x07'), ('b', '\x08'), ('t', '\t'),
  ('n', '\n'), ('v', '\x0b'), ('f', '\x0c'), ('r', '\r')]

/-- What the bytes after a backslash stand for with it, and how many of
them. A line feed after it joins lines, and a backslash before any other
sign stands for itself. -/
def escape? : List Nat → Option (List Char × Nat)
  | [] => none
  | byte :: rest =>
    let sign := Char.ofNat byte
    if sign = '\n' then some ([], 1)
    else if isOctal byte then
      let digits := ((byte :: rest).take 3).takeWhile isOctal
      let number := digits.foldl (fun number digit => number * 8 + (digit - 0x30)) 0
      some ([Char.ofNat number], digits.length)
    else if sign = 'x' then further (hexChar? 2 rest)
    else if sign = 'u' then further (hexChar? 4 rest)
    else if sign = 'U' then further (hexChar? 8 rest)
    else if sign = 'N' then none
    else
      match named.lookup sign with
      | some char => some ([char], 1)
      | none => some (['\\', sign], 1)
where
  further (found : Option (List Char × Nat)) : Option (List Char × Nat) :=
    found.map fun (chars, count) => (chars, count + 1)

/-- Only two escapes, for characters by number. Any other backslash stands
for itself, with the sign after it. -/
def numberEscape? : List Nat → Option (List Char × Nat)
  | [] => some (['\\'], 0)
  | byte :: rest =>
    let sign := Char.ofNat byte
    if sign = 'u' then (hexChar? 4 rest).map fun (chars, count) => (chars, count + 1)
    else if sign = 'U' then (hexChar? 8 rest).map fun (chars, count) => (chars, count + 1)
    else some (['\\', sign], 1)

def backslash : Nat := 0x5c

def text? (escape? : List Nat → Option (List Char × Nat)) : List Nat → Option (List Char)
  | [] => some []
  | byte :: rest =>
    if byte = backslash then do
      let (chars, further) ← escape? rest
      let text ← text? escape? (rest.drop further)
      some (chars ++ text)
    else (text? escape? rest).map (Char.ofNat byte :: ·)
termination_by bytes => bytes.length
decreasing_by all_goals simp only [List.length_drop, List.length_cons]; omega

end RecordQuery.Encoding.Escaped
