import RecordQuery.Condition.Reading
import RecordQuery.Query.Expr

/-!
# Filters

A filter is an expression made ready to run. Within a scope every group has
a place in the order of evaluation, and all groups are evaluated before the
body, which looks their verdicts up by place. So a failure inside a group
is never skipped, while the parts of a chain are evaluated only until one
of them settles it.

A leaf is a literal, a condition or neither. Text that is neither is kept as
it was written and fails once it is evaluated.
-/

namespace RecordQuery

inductive Leaf where
  | literal (verdict : Bool)
  | condition (stated : Condition)
  | invalid (written : String)

namespace Leaf

/-- A parenthesis outside quotes makes a leaf invalid whatever else it
says. -/
def read (written : List Char) : Except Failure Leaf :=
  let trimmed := Text.trim written
  if Text.lower trimmed == "true".toList then .ok (literal true)
  else if Text.lower trimmed == "false".toList then .ok (literal false)
  else if hasParentheses trimmed then .ok (invalid (String.ofList written))
  else do
    match ← Condition.read? written with
    | some stated => .ok (condition stated)
    | none => .ok (invalid (String.ofList written))

def holds (record : Record) : Leaf → Except Failure Bool
  | literal verdict => .ok verdict
  | condition stated => stated.holds record
  | invalid written => .error (.invalidCondition written)

end Leaf

inductive Filter where
  | leaf (content : Leaf)
  | chain (connective : Connective) (parts : List Filter)
  /-- A group, with its place in the scope it belongs to. -/
  | reference (place height : Nat) (body : Filter)
  /-- An expression with the height and the body of each of its groups, in
  the order of evaluation. -/
  | scope (body : Filter) (groups : List (Nat × Filter))
deriving Inhabited

namespace Filter

def literal (verdict : Bool) : Filter := leaf (.literal verdict)

mutual
/-- The verdict on a record. Groups are looked up among `known` verdicts;
without these they are evaluated where they stand. -/
def run (record : Record) (known : Option (List Bool)) : Filter → Except Failure Bool
  | leaf content => content.holds record
  | chain _ [] => .ok true
  | chain connective (part :: rest) =>
    runChain record known connective.settling (part :: rest)
  | reference place _ body =>
    match known with
    | none => body.run record none
    | some verdicts =>
      match verdicts[place]? with
      | some verdict => .ok verdict
      | none => .error .missingGroup
  | scope body groups => do body.run record (some (← runGroups record [] groups))
/-- Parts in order, up to the first that settles the chain. -/
def runChain (record : Record) (known : Option (List Bool)) (settling : Bool) :
    List Filter → Except Failure Bool
  | [] => .ok !settling
  | part :: rest => do
    if (← part.run record known) == settling then .ok settling
    else runChain record known settling rest
def runGroups (record : Record) (verdicts : List Bool) :
    List (Nat × Filter) → Except Failure (List Bool)
  | [] => .ok verdicts
  | (_, body) :: rest => do
    let verdict ← body.run record (some verdicts)
    runGroups record (verdicts ++ [verdict]) rest
end

def apply (filter : Filter) (record : Record) : Except Failure Bool := filter.run record none

def evaluate (filter : Filter) (record : Record) (verdicts : List Bool) : Except Failure Bool :=
  filter.run record (some verdicts)

def groups : Filter → List (Nat × Filter)
  | scope _ groups => groups
  | _ => []

end Filter

end RecordQuery
