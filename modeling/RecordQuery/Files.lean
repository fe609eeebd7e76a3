/-!
# Files

What is known of the files that paths lead to: the contents of each, and
the folders. Every folder on the way to a file is there as well, and so are
the working folder, the folders above it and the root.
-/

namespace RecordQuery

/-- Names from the working folder down. A path may start with `..`, again
and again, or with `/` for the root. -/
abbrev Path := List String

namespace Path

def parts (written : String) : List String := written.splitOn "/"

def above (path : Path) : Path :=
  match path.getLast? with
  | none | some ".." => path ++ [".."]
  | some "/" => path
  | some _ => path.dropLast

def step (path : Path) (part : String) : Path :=
  if part == "" || part == "." then path
  else if part == ".." then path.above
  else path ++ [part]

/-- Where a written path starts, and its parts from there; an empty one
leads nowhere. -/
def route? (written : String) : Option (Path × List String) :=
  match parts written with
  | [""] => none
  | "" :: rest => some (["/"], rest)
  | parts => some ([], parts)

def ofText? (written : String) : Option Path :=
  (route? written).map fun (start, parts) => parts.foldl step start

def text : Path → String
  | "/" :: rest => "/" ++ "/".intercalate rest
  | path => "/".intercalate path

/-- The ending of the last name, with its point. Points that a name starts
with do not count. -/
def extension (written : String) : String :=
  let name := (written.toList.reverse.takeWhile (· != '/')).reverse
  let ending := (name.reverse.takeWhile (· != '.')).reverse
  let stem := name.take (name.length - ending.length - 1)
  if stem.all (· == '.') then "" else String.ofList ('.' :: ending)

end Path

inductive Node where
  | file (contents : ByteArray)
  | folder

structure Files where
  files : List (Path × ByteArray)
  folders : List Path

namespace Files

def empty : Files := ⟨[], []⟩

def isFolder (files : Files) (path : Path) : Bool :=
  path.all (· == "..") || path == ["/"] || files.folders.any (path.isPrefixOf ·) ||
    files.files.any fun file => path.isPrefixOf file.1 && path != file.1

def node? (files : Files) (path : Path) : Option Node :=
  match files.files.lookup path with
  | some contents => some (.file contents)
  | none => if files.isFolder path then some .folder else none

/-- Follows the parts of a written path. Whatever a part is taken from has
to be a folder. -/
def follow (files : Files) : Path → List String → Option Path
  | current, [] => some current
  | current, part :: rest =>
    if files.isFolder current then follow files (current.step part) rest else none

def resolve? (files : Files) (written : String) : Option Path := do
  let (start, parts) ← Path.route? written
  files.follow start parts

def find? (files : Files) (written : String) : Option Node := do
  files.node? (← files.resolve? written)

def isPresent (files : Files) (written : String) : Bool := (files.find? written).isSome

def put (path : Path) (contents : ByteArray) :
    List (Path × ByteArray) → List (Path × ByteArray)
  | [] => [(path, contents)]
  | (other, old) :: rest =>
    if other == path then (path, contents) :: rest else (other, old) :: put path contents rest

def add (files : Files) (path : Path) (contents : ByteArray) : Files :=
  { files with files := put path contents files.files }

def addFolder (files : Files) (path : Path) : Files :=
  { files with folders := path :: files.folders }

def write? (files : Files) (written : String) (contents : ByteArray) : Option Files := do
  let path ← files.resolve? written
  if files.isFolder path then none else some (files.add path contents)

def plain (files : Files) : List (String × ByteArray) :=
  files.files.filterMap fun file =>
    match file.1 with
    | [name] => some (name, file.2)
    | _ => none

def made (before after : Files) : List (String × ByteArray) :=
  let old := before.plain.map Prod.fst
  (after.plain.filter fun file => !old.contains file.1).mergeSort fun a b => !(b.1 < a.1)

end Files

end RecordQuery
