import RecordQuery.Text.Encoding.Unicode
import RecordQuery.Value.Printing

/-!
# Writing JSON

Only printable ASCII is written as it is; every other character of a text
is escaped. Infinities and what is not a number are written as words. The
pretty form puts every item and field on a line of its own, two spaces
deeper than what holds it.
-/

namespace RecordQuery.Json

def hexDigit (n : Nat) : Char := Nat.digitChar n

def unitEscape (code : Nat) : List Char :=
  ['\\', 'u', hexDigit (code / 4096 % 16), hexDigit (code / 256 % 16), hexDigit (code / 16 % 16),
    hexDigit (code % 16)]

def escape (c : Char) : List Char :=
  if c == '"' then ['\\', '"']
  else if c == '\\' then ['\\', '\\']
  else if c == '\n' then ['\\', 'n']
  else if c == '\r' then ['\\', 'r']
  else if c == '\t' then ['\\', 't']
  else if c == '\x08' then ['\\', 'b']
  else if c == '\x0c' then ['\\', 'f']
  else if ' ' ≤ c && c ≤ '~' then [c]
  else (Text.units c).flatMap unitEscape

def writeText (s : List Char) : List Char := '"' :: s.flatMap escape ++ ['"']

def lineBreak (pretty : Bool) (depth : Nat) : List Char :=
  if pretty then '\n' :: List.replicate (2 * depth) ' ' else []

def gap (pretty : Bool) (depth : Nat) : List Char :=
  ',' :: (if pretty then lineBreak pretty depth else [' '])

mutual
def writeAt (pretty : Bool) (depth : Nat) : Value → List Char
  | .null => "null".toList
  | .bool b => if b then "true".toList else "false".toList
  | .int n => Text.intText n
  | .float x => Double.json.write x
  | .text s => writeText s.toList
  | .list [] => ['[', ']']
  | .list (item :: rest) =>
    '[' :: lineBreak pretty (depth + 1) ++ writeAt pretty (depth + 1) item ++
      writeItems pretty (depth + 1) rest ++ lineBreak pretty depth ++ [']']
  | .object [] => ['\x7b', '\x7d']
  | .object ((name, value) :: rest) =>
    '\x7b' :: lineBreak pretty (depth + 1) ++ writeText name.toList ++ ':' :: ' ' ::
      writeAt pretty (depth + 1) value ++
      writeFields pretty (depth + 1) rest ++ lineBreak pretty depth ++ ['\x7d']
def writeItems (pretty : Bool) (depth : Nat) : List Value → List Char
  | [] => []
  | item :: rest =>
    gap pretty depth ++ writeAt pretty depth item ++ writeItems pretty depth rest
def writeFields (pretty : Bool) (depth : Nat) : List (String × Value) → List Char
  | [] => []
  | (name, value) :: rest =>
    gap pretty depth ++ writeText name.toList ++ ':' :: ' ' ::
      writeAt pretty depth value ++ writeFields pretty depth rest
end

def write (pretty : Bool) (value : Value) : List Char := writeAt pretty 0 value

def line (value : Value) : String := String.ofList (write false value)

end RecordQuery.Json
