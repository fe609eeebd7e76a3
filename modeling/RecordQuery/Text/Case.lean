import RecordQuery.Text.Case.Table

/-!
# Lower and upper case

Full case mapping. Two letters go to more than one place in lower case: the
dotted capital I becomes an i with a combining dot, and a capital sigma
takes its final form after a letter that no letter follows.
-/

namespace RecordQuery.Text

def isCaseIgnorable (c : Char) : Bool := caseIgnorableRanges.has c

def isCased (c : Char) : Bool := casedRanges.has c

def startsCased : List Char → Bool
  | [] => false
  | c :: rest => if isCaseIgnorable c then startsCased rest else isCased c

/-- Lower case of one letter, the capital sigma as inside a word. -/
def lowerChar (c : Char) : List Char :=
  if isAscii c then [c.toLower]
  else if c == '\u0130' then ['i', '\u0307']
  else [Char.ofNat (caseImage lowerTable c.toNat)]

/-- Lower case of a text, told whether the nearest character before it that
is not ignorable is a letter. -/
def lowerFrom (afterLetter : Bool) : List Char → List Char
  | [] => []
  | c :: rest =>
    let now := if isCaseIgnorable c then afterLetter else isCased c
    if c == 'Σ' then
      (if afterLetter && !startsCased rest then 'ς' else 'σ') :: lowerFrom now rest
    else lowerChar c ++ lowerFrom now rest

def lower (text : List Char) : List Char := lowerFrom false text

def upperChar (c : Char) : List Char :=
  if isAscii c then [c.toUpper]
  else match upperSequences.lookup c.toNat with
    | some sequence => sequence.map Char.ofNat
    | none => [Char.ofNat (caseImage upperTable c.toNat)]

def upper (text : List Char) : List Char := text.flatMap upperChar

end RecordQuery.Text
