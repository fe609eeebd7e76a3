import RecordQuery.Limits
import RecordQuery.Settings.Loading
import RecordQuery.Source

/-!
# Loading within limits

A document that is nested too deep ends the stack where reading gets to the
first bracket without room. Nothing is loaded then, and it is no problem of
the file that is reported. A malformed document that goes wrong before that
bracket is not loaded like any other.
-/

namespace RecordQuery

namespace Json

def afterName? : List Char → Option (List Char)
  | '"' :: rest =>
    match textAfterQuote? rest with
    | some (_, after) =>
      match skipBlanks after with
      | ':' :: rest => some (skipBlanks rest)
      | _ => none
    | none => none
  | _ => none

def afterComma? (fuel : Nat) (text : List Char) : Option (List Char) :=
  match valueWithin fuel text with
  | some (_, after) =>
    match skipBlanks after with
    | ',' :: rest => some (skipBlanks rest)
    | _ => none
  | none => none

mutual
def overflowWithin? : Nat → Nat → List Char → Option Char
  | fuel + 1, room + 1, '[' :: rest => overflowOfParts? false fuel room (skipBlanks rest)
  | fuel + 1, room + 1, '\x7b' :: rest => overflowOfParts? true fuel room (skipBlanks rest)
  | _ + 1, 0, '[' :: _ => some '['
  | _ + 1, 0, '\x7b' :: _ => some '\x7b'
  | _, _, _ => none
def overflowOfParts? (named : Bool) : Nat → Nat → List Char → Option Char
  | 0, _, _ => none
  | fuel + 1, room, text => do
    let value ← if named then afterName? text else some text
    match overflowWithin? fuel room value with
    | some bracket => some bracket
    | none => overflowOfParts? named fuel room (← afterComma? fuel value)
end

/-- The first bracket without room that reading a text gets to. -/
def overflow? (room : Nat) (text : List Char) : Option Char :=
  overflowWithin? (2 * text.length + 2) room (skipBlanks text)

end Json

def Settings.storedText? (files : Files) (path : Option String) : Option (List Char) :=
  let name := match path with
    | none | some "" => defaultFile
    | some path => path
  match files.find? name with
  | some (.file contents) => Encoding.utf8.decode? contents
  | _ => none

def Descent.ofBracket (bracket : Char) : Descent :=
  if bracket == '[' then .decodingList else .decodingObject

namespace Source

def jsonText? (files : Files) (path : String) (options : Record) : Option (List Char) :=
  match files.find? path with
  | some (.file contents) =>
    if isRefused .json options then none
    else match encodingOf (encodingName? .json options) with
      | .ok encoding => encoding.decode? contents
      | .error _ => none
  | _ => none

def fieldsOf (options : Record) (document : Value) : Record :=
  ((candidates? (valueAt document (pathOf options))).getD []).flatMap Value.fields

end Source

namespace Limits

variable (limits : Limits)

def checkDocument (text : List Char) : Except Failure Unit :=
  match Json.overflow? limits.document text with
  | some bracket => .error (.stackEnded (.ofBracket bracket))
  | none => .ok ()

/-- Nested values are written as JSON, those of a list one by one. -/
def checkNested (value : Value) : Except Failure Unit := do
  let _ ← value.flattened.mapM fun part => part.follow .encoding (fun _ => .ok ()) limits.encoded
  .ok ()

def checkJson (options : Record) (text : List Char) : Except Failure Unit := do
  limits.checkDocument text
  let fields := ((Json.read? text).map (Source.fieldsOf options)).getD []
  let _ ← fields.mapM fun field => limits.checkNested field.2
  .ok ()

def checkSource (files : Files) (kind : SourceKind) (path : String) (options : Record) :
    Except Failure Unit :=
  match kind, Source.jsonText? files path options with
  | .json, some text => limits.checkJson options text
  | _, _ => .ok ()

def load (files : Files) (kind : SourceKind) (path : String) (options : Record) :
    Except Failure (Option Collection) := do
  limits.checkSource files kind path options
  Source.load files kind path options

def loadWith (files : Files) (path : String) (kindName : Option String) (settings : Settings) :
    Except Failure (SourceKind × Collection) :=
  match Source.kindOf files path kindName with
  | .error problem => .error (.source problem)
  | .ok kind => do
    limits.checkSource files kind path (settings.providers.get kind.name).fields
    Source.loadWith files path kindName settings

def loadSettings (files : Files) (path : Option String) : Except Failure Settings := do
  limits.checkDocument ((Settings.storedText? files path).getD [])
  Settings.load files path

end Limits

end RecordQuery
