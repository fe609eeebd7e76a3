import RecordQuery.Engine
import RecordQuery.FieldInfo
import RecordQuery.Report

/-!
# Limits

An integer of more than 4300 digits is not printed, and whatever is followed
into nested parts has to find room for them on the stack. What may meet one of
these limits is done again here, and fails where it does. Everywhere else the
outcome is that of the same operation without limits.

Some things are left out of the model, here and elsewhere:

* The stack holds calls, and here lists, objects and groups are counted. How
  many of them it has room for depends on the calls around, so these numbers
  are parameters. Which call is the last is told only where it is always the
  same.
* A text is made of characters. Half a pair of surrogates, which JSON can
  write as an escape, is none and is read as the replacement character.
* Settings and options are read as absent if they are of a type that they
  should not have: the path of the records, the delimiters and the encoding of
  a source. The key field and the longest query are not: there such a setting
  fails once it is used.
* Console tables, counts and summaries meet no limit. At the command line
  their records come from files, which hold no nested value and no integer
  that is too long.
-/

namespace RecordQuery

/-- How many nested parts the stack has room for. -/
structure Limits where
  /-- Groups of a query. -/
  groups : Nat
  /-- Lists of a value that is searched in. -/
  searched : Nat
  /-- Lists and objects of a value that is printed. -/
  printed : Nat
  /-- Lists and objects of a value that is made ready for JSON. -/
  converted : Nat
  /-- Lists and objects of a value that is written as JSON. -/
  encoded : Nat
  /-- Lists and objects of a JSON document. -/
  document : Nat

/-- A stack of a thousand calls, few of which are taken. -/
def Limits.standard : Limits := ⟨325, 485, 970, 485, 980, 985⟩

-- ---------------------------------------------------------------------------
-- Printing
-- ---------------------------------------------------------------------------

namespace Value

def isOverlong (n : Int) : Bool := Numeral.maxDigits < (Text.natText n.natAbs).length

def checkDigits (n : Int) : Except Failure Unit :=
  if isOverlong n then .error .unprintable else .ok ()

mutual
def follow (descent : Descent) (check : Int → Except Failure Unit) :
    Nat → Value → Except Failure Unit
  | _, int n => check n
  | room + 1, list items => followItems descent check room items
  | room + 1, object fields => followFields descent check room fields
  | 0, list _ | 0, object _ => .error (.stackEnded descent)
  | _, _ => .ok ()
def followItems (descent : Descent) (check : Int → Except Failure Unit) (room : Nat) :
    List Value → Except Failure Unit
  | [] => .ok ()
  | item :: rest => do
    item.follow descent check room
    followItems descent check room rest
def followFields (descent : Descent) (check : Int → Except Failure Unit) (room : Nat) :
    List (String × Value) → Except Failure Unit
  | [] => .ok ()
  | (_, value) :: rest => do
    value.follow descent check room
    followFields descent check room rest
end

end Value

namespace Limits

variable (limits : Limits)

def checkPrinted (value : Value) : Except Failure Unit :=
  value.follow .printing Value.checkDigits limits.printed

def print (value : Value) : Except Failure String := do
  limits.checkPrinted value
  .ok value.shown

def quote (value : Value) : Except Failure (List Char) := do
  limits.checkPrinted value
  .ok value.quoted

def write (value : Value) : Except Failure (List Char) := do
  value.follow .converting (fun _ => .ok ()) limits.converted
  value.follow .encoding Value.checkDigits limits.encoded
  .ok (Json.write false value)

-- ---------------------------------------------------------------------------
-- Descriptions and exports
-- ---------------------------------------------------------------------------

/-- Distinct values of a field. They are told apart by their quoted forms. -/
def collect (records : List Record) (field : String) : Except Failure (List Value) := do
  let items := records.flatMap fun record => (record.get field).flattened
  let _ ← (items.filter fun item => !item.isNullish).mapM limits.quote
  .ok (FieldInfo.collect records field)

def describe (records : List Record) (fields : Option (List String)) (types : Record) :
    Except Failure (List (String × FieldInfo)) := do
  let infos := FieldInfo.describe records fields types
  let _ ← (infos.filter fun info => info.2.values.isSome).mapM fun info =>
    limits.collect records info.1
  .ok infos

def itemText : Value → Except Failure (List Char)
  | .null => .ok []
  | value => do .ok (← limits.print value).toList

def cellText (delimiter : List Char) : Value → Except Failure (List Char)
  | .null => .ok []
  | .list items => do .ok (delimiter.intercalate (← items.mapM limits.itemText))
  | .object fields => limits.write (.object fields)
  | value => do .ok (← limits.print value).toList

def csv (keyField : Option String) (delimiter : String) :
    List Record → Except Failure (List Char)
  | [] => .ok []
  | records => do
    let names := Report.columns keyField records
    let rows ← records.mapM fun record => names.mapM fun name =>
      limits.cellText delimiter.toList (record.get name)
    .ok (Csv.writeRows (names.map String.toList :: rows))

end Limits

-- ---------------------------------------------------------------------------
-- Queries
-- ---------------------------------------------------------------------------

namespace Expr

variable {α β : Type}

mutual
/-- Reads every leaf, in the order of the text, while there is room for the
groups around it. -/
def readWithin (read : α → Except Failure β) : Nat → Expr α → Except Failure (Expr β)
  | _, leaf content => do .ok (leaf (← read content))
  | room, join connective parts => do .ok (join connective (← readPartsWithin read room parts))
  | 0, group _ => .error (.stackEnded .compiling)
  | room + 1, group body => do .ok (group (← body.readWithin read room))
def readPartsWithin (read : α → Except Failure β) (room : Nat) :
    List (Expr α) → Except Failure (List (Expr β))
  | [] => .ok []
  | part :: rest => do
    let first ← part.readWithin read room
    let others ← readPartsWithin read room rest
    .ok (first :: others)
end

end Expr

namespace Record

/-- The value of the field that a value names. Any value but a list or an
object can be looked up, though only a text names a field. -/
def lookUp (name : Value) (record : Record) : Except Failure Value :=
  match name.kind with
  | .list | .object => .error (.unhashable name.kind)
  | _ => .ok (record.key name.fieldName?)

end Record

def keysPassing (name : Value) (test : Record → Except Failure Bool) :
    List Record → Except Failure (List Value)
  | [] => .ok []
  | record :: rest => do
    if ← test record then
      let key ← record.lookUp name
      let others ← keysPassing name test rest
      .ok (key :: others)
    else keysPassing name test rest

namespace Limits

variable (limits : Limits)

def parseGroup (text : List Char) : Except Failure Filter := do
  .ok (.ofExpr (← (Expr.ofText text).readWithin Leaf.read limits.groups))

def parseFactor (text : List Char) : Except Failure Filter := do
  .ok (.ofExpr (← (Expr.ofPart text).readWithin Leaf.read limits.groups))

def compile (query : List Char) : Except Failure Filter :=
  match Text.normalize query with
  | [] => .ok (.literal true)
  | text => limits.parseGroup text

def satisfies (record : Record) (query : String) : Except Failure Bool :=
  if Text.isBlankText query.toList then .ok true
  else do (← limits.compile query.toList).apply record

def satisfiesGroup (record : Record) (group : String) : Except Failure Bool := do
  (← limits.parseGroup (Text.normalize group.toList)).apply record

mutual
/-- The text searched in. Nothing but lists is followed; an object is
printed. -/
def searchText : Nat → Value → Except Failure (List Char)
  | room + 1, .list items => do .ok ([','].intercalate (← searchTexts room items))
  | 0, .list _ => .error (.stackEnded .searching)
  | _, .object fields => limits.quote (.object fields)
  | _, value => value.searchText
def searchTexts (room : Nat) : List Value → Except Failure (List (List Char))
  | [] => .ok []
  | item :: rest => do
    let first ← searchText room item
    let others ← searchTexts room rest
    .ok (first :: others)
end

def matchesTerms (terms : List (List Char)) (record : Record) : Except Failure Bool := do
  let texts ← record.mapM fun field => limits.searchText limits.searched field.2
  let text := [' '].intercalate (texts.map Text.lower)
  .ok (terms.all fun term => Text.occursIn term text)

section
variable (records : List Record) (name : Value) (query : String)

/-! ### Answers

A value names the field of the keys. -/

def keys : Except Failure (List Value) := records.mapM (Record.lookUp name)

def select : Except Failure (List Value) := do
  let filter ← limits.compile (Text.normalize query.toList)
  keysPassing name (Engine.onRecord query filter) records

def search : Except Failure (List Value) :=
  match searchTerms query.toList with
  | [] => keys records name
  | terms => keysPassing name (limits.matchesTerms terms) records

def answer : Except Failure (List Value) :=
  match Mode.ofQuery query with
  | .empty => keys records name
  | .structured => limits.select records name query
  | .search => limits.search records name query

end

end Limits

end RecordQuery
