import RecordQuery.Failure
import RecordQuery.Files
import RecordQuery.Json.Reading
import RecordQuery.Settings
import RecordQuery.Text.Encoding

/-!
# Settings in files

Settings are kept in files as one object. What is read is laid over the
defaults again.
-/

namespace RecordQuery.Settings

def defaultFile : String := "table_query.json"

def storedValue? (files : Files) (path : String) : Option Value :=
  match files.find? path with
  | some (.file contents) => (Encoding.utf8.decode? contents).bind Json.read?
  | _ => none

def read (files : Files) (path : String) : Except Failure Settings :=
  match storedValue? files path with
  | none => .error (.settings .unreadable path)
  | some (.object fields) => .ok (ofFields fields)
  | some _ => .error (.settings .noObject path)

/-- Settings of a named file, else of the default file, else the
defaults. -/
def load (files : Files) (path : Option String) : Except Failure Settings :=
  match path with
  | none | some "" =>
    if files.isPresent defaultFile then read files defaultFile else .ok default
  | some path =>
    if files.isPresent path then read files path else .error (.settings .missing path)

def save? (settings : Settings) (files : Files) (path : String) : Option Files :=
  files.write? path (String.ofList settings.text).toUTF8

end RecordQuery.Settings
