import RecordQuery.Filter
import RecordQuery.Value.Printing

/-!
# Descriptions of filters

A filter is described by nested calls that would build it.
-/

namespace RecordQuery

open Text (quoted)

def Operator.description (operator : Operator) : List Char :=
  let known := fun label : String =>
    "<Operator.".toList ++ label.toList ++ ": ".toList ++ quoted operator.name.toList ++ ['>']
  match operator with
  | .equal => known "EQ"
  | .unequal => known "NE"
  | .greater => known "GT"
  | .less => known "LT"
  | .among => known "IN"
  | .other name => quoted name.toList

def Condition.description (condition : Condition) : List Char :=
  "Condition(field=".toList ++ quoted condition.field.toList ++
    ", operator=".toList ++ condition.operator.description ++
    ", value=".toList ++ condition.value.quoted ++ [')']

def Leaf.description : Leaf → List Char
  | literal verdict => "LiteralFilter(".toList ++ (Value.bool verdict).quoted ++ [')']
  | condition stated => "ConditionFilter(".toList ++ stated.description ++ [')']
  | invalid written => "InvalidFilter(".toList ++ quoted written.toList ++ [')']

namespace Filter

mutual
def description : Filter → List Char
  | leaf content => content.description
  | chain connective parts =>
    "FilterGroup([".toList ++ Value.separated (descriptions parts) ++
      "], operator='".toList ++ connective.name.toList ++ "')".toList
  | reference _ _ body => "GroupReference(".toList ++ body.description ++ [')']
  | scope body groups =>
    "GroupScope(".toList ++ body.description ++
      ", groups=".toList ++ Text.natText groups.length ++ [')']
def descriptions : List Filter → List (List Char)
  | [] => []
  | part :: rest => part.description :: descriptions rest
end

end Filter

end RecordQuery
