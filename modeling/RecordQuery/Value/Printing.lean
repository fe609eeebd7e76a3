import RecordQuery.Double.Decimal
import RecordQuery.Text.Quoted
import RecordQuery.Value

/-!
# Printed values

A value is shown as itself, except that a text inside a list or an object
is quoted. Keys of records are compared by their shown form.
-/

namespace RecordQuery.Value

def separated (parts : List (List Char)) : List Char := [',', ' '].intercalate parts

mutual
def quoted : Value → List Char
  | null => "None".toList
  | bool b => if b then "True".toList else "False".toList
  | int n => Text.intText n
  | float x => Double.plain.write x
  | text s => Text.quoted s.toList
  | list items => '[' :: separated (quotedItems items) ++ [']']
  | object fields => '\x7b' :: separated (quotedFields fields) ++ ['\x7d']
def quotedItems : List Value → List (List Char)
  | [] => []
  | item :: rest => item.quoted :: quotedItems rest
def quotedFields : List (String × Value) → List (List Char)
  | [] => []
  | (name, value) :: rest =>
    (Text.quoted name.toList ++ ':' :: ' ' :: value.quoted) :: quotedFields rest
end

def shownText : Value → List Char
  | text s => s.toList
  | value => value.quoted

def shown (value : Value) : String := String.ofList value.shownText

@[simp] theorem shown_text (s : String) : (text s).shown = s := by simp [shown, shownText]

end RecordQuery.Value
