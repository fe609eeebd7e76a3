import RecordQuery.Command.Arguments

/-!
# Command lines

Three commands: one filters a source and prints what it selects, one
describes the fields of a source, and one shows or creates settings.
-/

namespace RecordQuery.Command

def help : Opt := ⟨"help", ["-h", "--help"], .help⟩

def mainOptions : List Opt := [
  help, ⟨"verbose", ["--verbose", "-v"], .nothing⟩, ⟨"config", ["--config", "-c"], .one .text⟩]

def sourceOptions : List Opt := [
  help, ⟨"data-source", ["--data-source"], .one .text⟩,
  ⟨"primary-key", ["--primary-key"], .one .text⟩,
  ⟨"provider", ["--provider"], .one (.oneOf ["csv", "json"])⟩,
  ⟨"list-fields", ["--list-fields"], .many⟩]

def filterOptions : List Opt := sourceOptions ++ [
  ⟨"query", ["--query", "-q"], .one .text⟩,
  ⟨"max-results", ["--max-results"], .one .integer⟩,
  ⟨"max-width", ["--max-width"], .one .integer⟩,
  ⟨"output-format", ["--output-format"], .one (.oneOf ["console", "json", "csv", "ids"])⟩,
  ⟨"count-by", ["--count-by"], .one .text⟩]

def configOptions : List Opt := [
  help, ⟨"show", ["--show"], .nothing⟩, ⟨"create", ["--create"], .one .text⟩]

structure SourceChoice where
  path : String
  keyField : Option String
  provider : Option String
  listFields : List String

structure Selection where
  query : String
  maxResults : Option Int
  maxWidth : Option Int
  format : Option String
  countBy : Option String

inductive Action where
  | filter (source : SourceChoice) (selection : Selection)
  | fields (source : SourceChoice)
  | config (shows : Bool) (create : Option String)

structure Invocation where
  settingsPath : Option String
  action : Option Action

def sourceChoice (given : Given) : Except Usage SourceChoice :=
  match given.value? "data-source" with
  | none => .error .wrong
  | some path => .ok ⟨path, given.value? "primary-key", given.value? "provider",
      (given.values? "list-fields").getD []⟩

def integerOption (given : Given) (key : String) : Option Int :=
  (given.value? key).bind integer?

def selection (given : Given) : Selection :=
  ⟨(given.value? "query").getD "", integerOption given "max-results",
    integerOption given "max-width", given.value? "output-format", given.value? "count-by"⟩

def readAction (name : String) (arguments : List String) : Except Usage (Action × Bool) :=
  match name with
  | "filter" => do
    let reading ← read filterOptions false arguments
    .ok (.filter (← sourceChoice reading.given) (selection reading.given), reading.leftOver)
  | "fields" => do
    let reading ← read sourceOptions false arguments
    .ok (.fields (← sourceChoice reading.given), reading.leftOver)
  | "config" => do
    let reading ← read configOptions false arguments
    .ok (.config (reading.given.has "show") (reading.given.value? "create"), reading.leftOver)
  | _ => .error .wrong

def parse (arguments : List String) : Except Usage Invocation := do
  let reading ← read mainOptions true arguments
  let settingsPath := reading.given.value? "config"
  match reading.command with
  | none => if reading.leftOver then .error .wrong else .ok ⟨settingsPath, none⟩
  | some (name, rest) =>
    let (action, leftOver) ← readAction name rest
    if reading.leftOver || leftOver then .error .wrong else .ok ⟨settingsPath, some action⟩

end RecordQuery.Command
