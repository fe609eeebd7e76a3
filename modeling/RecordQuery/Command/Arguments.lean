import RecordQuery.Command.Options

/-!
# Reading arguments

Arguments are taken from left to right. The value of a short option may
follow its name at once, and short options that take nothing may share a
dash. An argument that mentions options is understood as a whole before any
of them is acted on. A command takes over everything that follows it. What
is left over is told at the end, so that a request for help still comes
first.
-/

namespace RecordQuery.Command

abbrev Given := List (String × List String)

def note (given : Given) (opt : Opt) (values : List String) : Except Usage Given :=
  match opt.takes with
  | .help => .error .help
  | .one form =>
    if values.all form.accepts then .ok ((opt.key, values) :: given) else .error .wrong
  | _ => .ok ((opt.key, values) :: given)

def Takes.takesValues : Takes → Bool
  | .one _ | .many => true
  | _ => false

/-- Options of one mention: those that take nothing, and one more with the
value written with it. -/
structure Cluster where
  flags : List Opt
  last : Opt
  text : Option (List Char)

/-- Short options that share a dash. What follows one that takes nothing
has to be the letters of others, up to one that takes the rest. -/
def shared (options : List Opt) (opt : Opt) (text : List Char) : Except Usage Cluster :=
  if opt.takes.takesValues then .ok ⟨[], opt, some text⟩
  else match text with
    | [] => .error .wrong
    | c :: rest =>
      match named? options ['-', c], rest with
      | none, _ => .error .wrong
      | some next, [] => .ok ⟨[opt], next, none⟩
      | some next, _ => do
        let cluster ← shared options next rest
        .ok { cluster with flags := opt :: cluster.flags }

def mentioned (options : List Opt) (mention : Mention) : Except Usage Cluster :=
  match mention.text with
  | none => .ok ⟨[], mention.opt, none⟩
  | some text =>
    if mention.isShort then shared options mention.opt text
    else if mention.opt.takes.takesValues then .ok ⟨[], mention.opt, some text⟩
    else .error .wrong

def isValue (token : String × Token) : Bool :=
  match token.2 with
  | .value => true
  | _ => false

def valuesOf (opt : Opt) (value : Option (List Char)) (following : List (String × Token)) :
    Except Usage (List String × Nat) :=
  match opt.takes, value with
  | .one _, some value | .many, some value => .ok ([String.ofList value], 0)
  | .one _, none =>
    match following with
    | (argument, .value) :: _ => .ok ([argument], 1)
    | _ => .error .wrong
  | .many, none =>
    let values := (following.takeWhile isValue).map Prod.fst
    .ok (values, values.length)
  | _, _ => .ok ([], 0)

structure Reading where
  given : Given
  command : Option (String × List String)
  leftOver : Bool

/-- Reads arguments from left to right. The first `skip` of them are taken
already. -/
def readTokens (options : List Opt) (hasCommand : Bool) :
    Nat → Given → Bool → List (String × Token) → Except Usage Reading
  | _, given, leftOver, [] => .ok ⟨given, none, leftOver⟩
  | skip + 1, given, leftOver, _ :: rest => readTokens options hasCommand skip given leftOver rest
  | 0, given, leftOver, (argument, token) :: rest =>
    match token with
    | .unknown => readTokens options hasCommand 0 given true rest
    | .mention mention => do
      let cluster ← mentioned options mention
      let (values, taken) ← valuesOf cluster.last cluster.text rest
      -- A missing value is told before any of the options is acted on.
      let flagged ← cluster.flags.foldlM (fun given flag => note given flag []) given
      readTokens options hasCommand taken (← note flagged cluster.last values) leftOver rest
    | _ =>
      if hasCommand then .ok ⟨given, some (argument, rest.map Prod.fst), leftOver⟩
      else readTokens options hasCommand 0 given true rest

def read (options : List Opt) (hasCommand : Bool) (arguments : List String) :
    Except Usage Reading := do
  readTokens options hasCommand 0 [] false (← tokens options arguments)

namespace Given

def values? (given : Given) (key : String) : Option (List String) := given.lookup key

def value? (given : Given) (key : String) : Option String :=
  (values? given key).bind List.head?

def has (given : Given) (key : String) : Bool := (values? given key).isSome

end Given

end RecordQuery.Command
