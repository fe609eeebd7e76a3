import RecordQuery.Filter
import RecordQuery.Proofs.Text.Blank

/-!
# The grammar of expressions

Expressions as they are written: alternatives joined by OR, each of factors
joined by AND, and a factor is a truth value, a condition or a group. Every
tree has a text, which depends on a layout only in optional spaces, and an
expression that the text stands for.

Names, values and items carry what makes their text readable. A phrase holds
no quote because the language has no escape for it.
-/

namespace RecordQuery.Grammar

/-- The spaces that may be left out. -/
structure Layout where
  aroundOperators : Bool
  afterCommas : Bool

def gap (isWide : Bool) : List Char := if isWide then [' '] else []

/-- The name of a field: a word that is no keyword. -/
structure Name where
  chars : List Char
  nonempty : chars ≠ []
  isWord : ∀ c ∈ chars, Text.isWord c = true
  noKeyword : ∀ connective : Connective, chars ≠ connective.name.toList

/-- What may stand between double quotes. -/
structure Phrase where
  chars : List Char
  unquoted : '"' ∉ chars
  spaced : Text.SingleSpaced chars

def Phrase.text (phrase : Phrase) : List Char := '"' :: (phrase.chars ++ ['"'])

def Phrase.value (phrase : Phrase) : Value := .text (String.ofList phrase.chars)

inductive Literal where
  | null
  | truth (verdict : Bool)
  | integer (n : Int) (short : (Text.natText n.natAbs).length ≤ Numeral.maxDigits)
  | phrase (content : Phrase)

namespace Literal

def text : Literal → List Char
  | null => "NULL".toList
  | truth verdict => if verdict then "true".toList else "false".toList
  | integer n _ => Text.intText n
  | phrase content => content.text

def value : Literal → Value
  | null => .null
  | truth verdict => .bool verdict
  | integer n _ => .int n
  | phrase content => content.value

end Literal

/-- An item of a list. Quotes do not protect commas and brackets there, nor
the word NULL from being read as null. -/
inductive Item where
  | null
  | phrase (content : Phrase) (noComma : ',' ∉ content.chars) (noBracket : ']' ∉ content.chars)
      (noNull : content.chars ≠ "NULL".toList)

namespace Item

def text : Item → List Char
  | null => "NULL".toList
  | phrase content .. => content.text

def value : Item → Value
  | null => .null
  | phrase content .. => content.value

end Item

inductive Comparison where
  | equal | unequal | greater | less

def Comparison.operator : Comparison → Operator
  | equal => .equal
  | unequal => .unequal
  | greater => .greater
  | less => .less

/-- A condition as it is written. -/
inductive Statement where
  | compares (field : Name) (comparison : Comparison) (value : Literal)
  | among (field : Name) (first : Item) (others : List Item)

def itemsText (layout : Layout) : Item → List Item → List Char
  | item, [] => item.text
  | item, next :: others =>
    item.text ++ ',' :: (gap layout.afterCommas ++ itemsText layout next others)

namespace Statement

def text (layout : Layout) : Statement → List Char
  | compares field comparison value =>
    field.chars ++ (gap layout.aroundOperators ++ (comparison.operator.name.toList ++
      (gap layout.aroundOperators ++ value.text)))
  | among field first others =>
    field.chars ++ (" IN [".toList ++ (itemsText layout first others ++ [']']))

def condition : Statement → Condition
  | compares field comparison value =>
    ⟨String.ofList field.chars, comparison.operator, value.value⟩
  | among field first others =>
    ⟨String.ofList field.chars, .among, .list ((first :: others).map Item.value)⟩

end Statement

mutual
inductive Factor where
  | truth (verdict : Bool)
  | condition (stated : Statement)
  | group (body : Alternatives)
inductive Clause where
  | one (factor : Factor)
  | and (factor : Factor) (rest : Clause)
inductive Alternatives where
  | one (clause : Clause)
  | or (clause : Clause) (rest : Alternatives)
end

variable (layout : Layout)

mutual
def Factor.text : Factor → List Char
  | .truth verdict => if verdict then "true".toList else "false".toList
  | .condition stated => stated.text layout
  | .group body => '(' :: (body.text ++ [')'])
def Clause.text : Clause → List Char
  | .one factor => factor.text
  | .and factor rest => factor.text ++ (Connective.and.separator ++ rest.text)
def Alternatives.text : Alternatives → List Char
  | .one clause => clause.text
  | .or clause rest => clause.text ++ (Connective.or.separator ++ rest.text)
end

mutual
def Factor.expr : Factor → Expr Leaf
  | .truth verdict => .leaf (.literal verdict)
  | .condition stated => .leaf (.condition stated.condition)
  | .group body => .group (.joined .or body.exprs)
def Clause.exprs : Clause → List (Expr Leaf)
  | .one factor => [factor.expr]
  | .and factor rest => factor.expr :: rest.exprs
def Alternatives.exprs : Alternatives → List (Expr Leaf)
  | .one clause => [.joined .and clause.exprs]
  | .or clause rest => .joined .and clause.exprs :: rest.exprs
end

/-- The expression that alternatives stand for. A single part is not
joined. -/
def Alternatives.expr (tree : Alternatives) : Expr Leaf := .joined .or tree.exprs

end RecordQuery.Grammar
