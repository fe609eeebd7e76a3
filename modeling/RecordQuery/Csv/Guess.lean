import RecordQuery.Text.Pattern

/-!
# Guessing a separator

The separator of a text is guessed from its first line. If texts in quotes
stand in it, it is the character most often found beside them. Else it is
one of the ASCII characters of the line: one that often separates fields,
or else the most frequent one.
-/

namespace RecordQuery.Csv

open Text (Pattern)

def besideGroup : Nat := 1

def quoteGroup : Nat := 2

/-- What may separate: no letter, digit, low line, line feed or quote. -/
def beside : Pattern :=
  .group besideGroup
    (.one ⟨[.kind .word true, .char '\n', .char '"', .char '\''], true, false⟩)

def maybeSpace : Pattern := .repeated 0 (some 1) .most (.one ⟨[.char ' '], false, false⟩)

def quotedText : Pattern :=
  .seq (.group quoteGroup (.one ⟨[.char '"', .char '\''], false, false⟩))
    (.seq (.repeated 0 none .least (.one ⟨[], true, false⟩)) (.same quoteGroup false))

def lineFeed : Pattern := .one ⟨[.char '\n'], false, false⟩

def atLineStart : Pattern := .either (.at .lineStart) lineFeed

def atLineEnd : Pattern := .either (.at .lineEnd) lineFeed

/-- Arrangements of a text in quotes: between two separators, at a line
start, at a line end, and alone. Those that come first are tried first. -/
def arrangements : List Pattern := [
  .seq beside (.seq maybeSpace (.seq quotedText (.same besideGroup false))),
  .seq atLineStart (.seq quotedText (.seq beside maybeSpace)),
  .seq beside (.seq maybeSpace (.seq quotedText atLineEnd)),
  .seq atLineStart (.seq quotedText atLineEnd)]

def commonest? {α : Type} [BEq α] : List α → Option α
  | [] => none
  | x :: rest =>
    match commonest? rest with
    | none => some x
    | some y => if (x :: rest).count y ≤ (x :: rest).count x then some x else some y

def besideQuotes? (line : List Char) : Option Char := do
  let found ← (arrangements.map fun pattern => (pattern.find line).1).find? (!·.isEmpty)
  commonest? (found.filterMap fun place => (place.groups.lookup besideGroup).bind List.head?)

def usualSeparators : List Char := [',', '\t', ';', ' ', ':']

/-- The most frequent of some characters, the last in order of those that
tie. -/
def mostFrequent? (line : List Char) : List Char → Option Char
  | [] => none
  | c :: rest =>
    match mostFrequent? line rest with
    | none => some c
    | some d =>
      if line.count d < line.count c || (line.count c == line.count d && d < c) then some c
      else some d

def byFrequency? (line : List Char) : Option Char :=
  let chars := line.filter fun c => c != '\n' && c.toNat < 127
  (usualSeparators.find? chars.contains).or (mostFrequent? chars chars)

def guess? (line : List Char) : Option Char := (besideQuotes? line).or (byFrequency? line)

end RecordQuery.Csv
