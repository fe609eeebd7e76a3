import RecordQuery.Command

/-!
# Program

Reads the files that a command line names, runs it and writes what it
leaves behind.
-/

open RecordQuery

namespace RecordQuery.Program

def inputs (invocation : Command.Invocation) : List String :=
  let source :=
    match invocation.action with
    | some (.filter source _) | some (.fields source) => [source.path]
    | _ => []
  invocation.settingsPath.getD Settings.defaultFile :: source

def created? (invocation : Command.Invocation) : Option String :=
  match invocation.action with
  | some (.config _ create) => create
  | _ => none

def know (files : Files) (written : String) : IO Files := do
  match Path.ofText? written with
  | none => return files
  | some path =>
    try
      let contents ← IO.FS.readBinFile written
      return (files.addFolder path.above).add path contents
    catch _ => return files

def changed (before after : Files) : List (Path × ByteArray) :=
  after.files.filter fun file => before.files.lookup file.1 != some file.2

def store (files : List (Path × ByteArray)) : IO Bool := do
  try
    for (path, contents) in files do
      IO.FS.writeBinFile path.text contents
    return true
  catch _ => return false

def finish (before : Files) (outcome : Command.Outcome) : IO UInt32 := do
  if ← store (changed before outcome.files) then
    IO.print (String.ofList outcome.output)
    IO.eprint (String.ofList outcome.errors)
    return outcome.code.toUInt32
  else return 1

def run (invocation : Command.Invocation) : IO UInt32 := do
  let known ← (inputs invocation).foldlM know .empty
  let files := ((created? invocation).bind Path.ofText?).elim known fun path =>
    known.addFolder path.above
  let columns := ((← IO.getEnv "COLUMNS").bind String.toInt?).getD 120
  match Command.run files columns invocation with
  | .ok outcome => finish files outcome
  | .error failure =>
    IO.eprintln (failure.kind ++ ": " ++ failure.message)
    return 1

end RecordQuery.Program

def main (arguments : List String) : IO UInt32 := do
  match Command.parse arguments with
  | .error .help =>
    IO.println "usage: filter | fields | config [options]"
    return 0
  | .error .wrong =>
    IO.eprintln "usage: filter | fields | config [options]"
    return 2
  | .ok invocation => Program.run invocation
