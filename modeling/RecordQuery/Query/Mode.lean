import RecordQuery.Text.Blank
import RecordQuery.Text.Word

/-!
# Query modes

A query is empty, a structured expression or a text to search for. The
choice is made from the text alone: a comparison character, a parenthesis or
one of the words AND, OR and IN, in any case, makes a query structured.
-/

namespace RecordQuery

inductive Mode where
  | empty | structured | search
deriving DecidableEq

namespace Mode

def name : Mode → String
  | empty => "empty"
  | structured => "structured"
  | search => "search"

/-- A letter in upper case, as far as the keywords need it: the dotted and
the dotless i count as an I. -/
def fold (c : Char) : Char :=
  if c == '\u0130' || c == '\u0131' then 'I' else c.toUpper

def isMark (c : Char) : Bool := "=!<>()".toList.contains c

def isKeyword (word : List Char) : Bool :=
  ["AND".toList, "OR".toList, "IN".toList].contains (word.map fold)

def wordRuns : List Char → List (List Char)
  | [] => [[]]
  | c :: rest =>
    if Text.isWord c then
      match wordRuns rest with
      | run :: runs => (c :: run) :: runs
      | [] => [[c]]
    else [] :: wordRuns rest

def isStructured (query : List Char) : Bool :=
  query.any isMark || (wordRuns query).any isKeyword

def ofQuery (query : String) : Mode :=
  if Text.isBlankText query.toList then empty
  else if isStructured query.toList then structured
  else search

end Mode

end RecordQuery
