import RecordQuery.Failure
import RecordQuery.Query.Nesting
import RecordQuery.Text.Case

/-!
# Expressions

The shape of an expression: leaves joined by AND and OR, and groups in
parentheses. OR binds loosest. A connective with a single part is dropped,
so every join that is read from a text has two parts at least. Leaves are
kept as text here.
-/

namespace RecordQuery

inductive Connective where
  | and | or
deriving DecidableEq, Inhabited

namespace Connective

def name : Connective → String
  | and => "AND"
  | or => "OR"

/-- What stands between two parts. -/
def separator : Connective → List Char
  | and => " AND ".toList
  | or => " OR ".toList

def ofName (given : String) : Except Failure Connective :=
  let folded := Text.upper given.toList
  if folded == "AND".toList then .ok and
  else if folded == "OR".toList then .ok or
  else .error (.unknownConnective given)

/-- The verdict that settles a chain of parts as soon as one part gives it;
a chain that is never settled has the opposite verdict. -/
def settling : Connective → Bool
  | and => false
  | or => true

end Connective

inductive Expr (α : Type) where
  | leaf (content : α)
  | join (connective : Connective) (parts : List (Expr α))
  | group (body : Expr α)
deriving Inhabited

namespace Expr

variable {α β : Type}

def joined (connective : Connective) : List (Expr α) → Expr α
  | [part] => part
  | parts => .join connective parts

mutual
def height : Expr α → Nat
  | leaf _ => 0
  | join _ parts => heightOfParts parts
  | group body => body.height + 1
def heightOfParts : List (Expr α) → Nat
  | [] => 0
  | part :: rest => max part.height (heightOfParts rest)
end

mutual
def groupCount : Expr α → Nat
  | leaf _ => 0
  | join _ parts => groupCountOfParts parts
  | group body => body.groupCount + 1
def groupCountOfParts : List (Expr α) → Nat
  | [] => 0
  | part :: rest => part.groupCount + groupCountOfParts rest
end

mutual
/-- Height of every group; a group follows those inside it. -/
def heights : Expr α → List Nat
  | leaf _ => []
  | join _ parts => heightsOfParts parts
  | group body => body.heights ++ [body.height + 1]
def heightsOfParts : List (Expr α) → List Nat
  | [] => []
  | part :: rest => part.heights ++ heightsOfParts rest
end

mutual
def traverse (read : α → Except Failure β) : Expr α → Except Failure (Expr β)
  | leaf content => do .ok (leaf (← read content))
  | join connective parts => do .ok (join connective (← traverseParts read parts))
  | group body => do .ok (group (← body.traverse read))
def traverseParts (read : α → Except Failure β) :
    List (Expr α) → Except Failure (List (Expr β))
  | [] => .ok []
  | part :: rest => do
    let first ← part.traverse read
    let others ← traverseParts read rest
    .ok (first :: others)
end

/-- Splits at OR, then at AND; a part that is one group in parentheses is
read again inside them, and any other part is a leaf. -/
def ofText (text : List Char) : Expr (List Char) :=
  joined .or <| (splitTopLevel text Connective.or.separator).attach.map fun ⟨clause, _⟩ =>
    joined .and <| (splitTopLevel clause Connective.and.separator).attach.map fun ⟨part, _⟩ =>
      match _ : unwrap? (Text.trim part) with
      | some inner => group (ofText inner)
      | none => leaf part
termination_by text.length
decreasing_by
  have := length_le_of_mem_splitTopLevel ‹clause ∈ _›
  have := length_le_of_mem_splitTopLevel ‹part ∈ _›
  have := length_lt_of_unwrap? ‹unwrap? _ = some inner›
  have := Text.length_trim_le part
  omega

def ofPart (part : List Char) : Expr (List Char) :=
  match unwrap? (Text.trim part) with
  | some inner => group (ofText inner)
  | none => leaf part

theorem ofText_eq (text : List Char) :
    ofText text =
      joined .or ((splitTopLevel text Connective.or.separator).map fun clause =>
        joined .and ((splitTopLevel clause Connective.and.separator).map ofPart)) := by
  rw [ofText]
  refine congrArg _ (Eq.trans (List.map_congr_left fun clause _ => ?_) List.attach_map_val)
  refine congrArg (joined .and)
    (Eq.trans (List.map_congr_left fun part _ => ?_) (List.attach_map_val (f := ofPart)))
  obtain ⟨part, _⟩ := part
  simp only [ofPart]
  split <;> split <;> simp_all

end Expr

end RecordQuery
