import RecordQuery.Filter

/-!
# From text to filters

Groups are evaluated innermost first: by height, and from left to right
among groups of one height. Their places are fixed before the filter is
built, from the heights alone.
-/

namespace RecordQuery

/-- Puts numbered heights in order, keeping that of equal heights. -/
def byHeight {α : Type} (items : List (Nat × α)) : List (Nat × α) :=
  let top := (items.map Prod.fst).foldl max 0
  (List.range (top + 1)).flatMap fun height => items.filter fun item => item.1 == height

namespace Expr

/-- Numbers of all groups in the order of evaluation. -/
def order {α : Type} (expr : Expr α) : List Nat :=
  (byHeight expr.heights.zipIdx).map Prod.snd

mutual
/-- A filter whose groups, counted from `start`, go to their places. -/
def toFilter (place : Nat → Nat) (start : Nat) : Expr Leaf → Filter
  | leaf content => .leaf content
  | join connective parts => .chain connective (toFilters place start parts)
  | group body =>
    .reference (place (start + body.groupCount)) (body.height + 1) (body.toFilter place start)
def toFilters (place : Nat → Nat) (start : Nat) : List (Expr Leaf) → List Filter
  | [] => []
  | part :: rest => part.toFilter place start :: toFilters place (start + part.groupCount) rest
end

mutual
/-- Heights and bodies of all groups; a group follows those inside it. -/
def bodies (place : Nat → Nat) (start : Nat) : Expr Leaf → List (Nat × Filter)
  | leaf _ => []
  | join _ parts => bodiesOfParts place start parts
  | group body => body.bodies place start ++ [(body.height + 1, body.toFilter place start)]
def bodiesOfParts (place : Nat → Nat) (start : Nat) : List (Expr Leaf) → List (Nat × Filter)
  | [] => []
  | part :: rest =>
    part.bodies place start ++ bodiesOfParts place (start + part.groupCount) rest
end

end Expr

namespace Filter

/-- An expression with groups becomes a scope. -/
def ofExpr (expr : Expr Leaf) : Filter :=
  let order := expr.order
  let place := fun number => order.idxOf number
  match expr.bodies place 0 with
  | [] => expr.toFilter place 0
  | bodies => .scope (expr.toFilter place 0) (byHeight bodies)

def parseGroup (text : List Char) : Except Failure Filter := do
  .ok (ofExpr (← (Expr.ofText text).traverse Leaf.read))

def parseFactor (text : List Char) : Except Failure Filter := do
  .ok (ofExpr (← (Expr.ofPart text).traverse Leaf.read))

/-- Compiles a query. An empty one accepts every record. -/
def parse (query : List Char) : Except Failure Filter :=
  match Text.normalize query with
  | [] => .ok (literal true)
  | text => parseGroup text

end Filter

end RecordQuery
