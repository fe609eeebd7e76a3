import RecordQuery.Condition
import RecordQuery.Text.Search
import RecordQuery.Text.Word

/-!
# Reading conditions

A condition is a field name, an operator and a value: a literal after a
comparison, a bracketed list after `IN`. The list form is tried first.
-/

namespace RecordQuery.Condition

def nameOf? (text : List Char) : Option (List Char × List Char) :=
  match text.takeWhile Text.isWord with
  | [] => none
  | name => some (name, text.dropWhile Text.isWord)

def afterBlanks? : List Char → Option (List Char)
  | [] => none
  | c :: rest => if Text.isBlank c then some (Text.trimStart rest) else none

/-- One item of a list. Its quotes are dropped before it is read, so a
quoted `NULL` is null as well. -/
def item (written : List Char) : Value :=
  let text := Text.without '"' (Text.trim written)
  if text == "NULL".toList then .null else .text (String.ofList text)

def items? : List Char → Option (List Value)
  | '[' :: rest =>
    match rest.takeWhile (· != ']'), rest.dropWhile (· != ']') with
    | [], _ => none
    | inner, [']'] => some ((Text.cut [','] inner).map item)
    | _, _ => none
  | _ => none

def membership? (text : List Char) : Option Condition := do
  let (name, rest) ← nameOf? text
  match ← afterBlanks? rest with
  | 'I' :: 'N' :: rest =>
    let items ← items? (← afterBlanks? rest)
    some ⟨String.ofList name, .among, .list items⟩
  | _ => none

def operatorOf? : List Char → Option (Operator × List Char)
  | '!' :: '=' :: rest => some (.unequal, rest)
  | '=' :: rest => some (.equal, rest)
  | '>' :: rest => some (.greater, rest)
  | '<' :: rest => some (.less, rest)
  | _ => none

/-- Reads `name operator literal`, with the literal as written: it is not
empty and keeps to one line. -/
def comparison? (text : List Char) : Option (String × Operator × List Char) := do
  let (name, rest) ← nameOf? text
  let (operator, rest) ← operatorOf? (Text.trimStart rest)
  let literal := Text.trimStart rest
  if literal.isEmpty || literal.contains '\n' then none
  else some (String.ofList name, operator, literal)

def read? (text : List Char) : Except Failure (Option Condition) :=
  let trimmed := Text.trim text
  match membership? trimmed with
  | some condition => .ok (some condition)
  | none =>
    match comparison? trimmed with
    | none => .ok none
    | some (field, operator, literal) => do
      .ok (some ⟨field, operator, ← Value.parseLiteral literal⟩)

def parse (text : String) : Except Failure Condition := do
  match ← read? text.toList with
  | some condition => .ok condition
  | none => .error (.invalidCondition text)

end RecordQuery.Condition
