import RecordQuery.Numeral
import RecordQuery.Text.Blank

/-!
# Command-line options

An option has names of one or two dashes and takes nothing, one value or
any number of values. A long name may be cut short as long as it stays
unambiguous, and its value may follow an equals sign. Two dashes alone end
the options. Every argument is told to be a value or to mention an option
before any is acted on.
-/

namespace RecordQuery.Command

inductive Form where
  | text
  | integer
  | oneOf (choices : List String)

inductive Takes where
  | help
  | nothing
  | one (form : Form)
  | many

structure Opt where
  key : String
  names : List String
  takes : Takes

inductive Usage where
  | help | wrong
deriving DecidableEq

def groupedDigits? : List Char → Option (List Nat)
  | [] => none
  | [c] => (Text.digit? c).map ([·])
  | c :: '_' :: rest => do some ((← Text.digit? c) :: (← groupedDigits? rest))
  | c :: rest => do some ((← Text.digit? c) :: (← groupedDigits? rest))

def integer? (written : String) : Option Int := do
  let (negative, unsigned) := Numeral.signOf (Text.trim written.toList)
  let digits ← groupedDigits? unsigned
  if Numeral.maxDigits < digits.length then none
  else some (Double.signed negative (Text.ofDigits digits))

def Form.accepts (form : Form) (value : String) : Bool :=
  match form with
  | text => true
  | integer => (integer? value).isSome
  | oneOf choices => choices.contains value

/-- Digits that go on to the end of a line, a line feed at the very end not
counted. -/
def isDigitsToEnd (text : List Char) : Bool :=
  match Text.leadingDigits text with
  | (digits, []) | (digits, ['\n']) => !digits.isEmpty
  | _ => false

/-- A minus sign before digits with at most one point, which needs a digit
after it. -/
def isNegativeNumber (argument : List Char) : Bool :=
  match argument with
  | '-' :: rest =>
    isDigitsToEnd rest ||
      match Text.leadingDigits rest with
      | (_, '.' :: fraction) => isDigitsToEnd fraction
      | _ => false
  | _ => false

structure Mention where
  opt : Opt
  isShort : Bool
  text : Option (List Char)

inductive Token where
  | value
  | mention (mention : Mention)
  | unknown
  | endOfOptions

def namesOf (options : List Opt) : List (List Char × Opt) :=
  options.flatMap fun opt => opt.names.map fun name => (name.toList, opt)

def named? (options : List Opt) (name : List Char) : Option Opt := (namesOf options).lookup name

def splitValue (argument : List Char) : List Char × Option (List Char) :=
  match argument.dropWhile (· != '=') with
  | [] => (argument, none)
  | _ :: value => (argument.takeWhile (· != '='), some value)

def isLong (name : List Char) : Bool := "--".toList.isPrefixOf name

/-- Options whose names an argument may stand for: long names that it
begins, or the short name that it starts with. -/
def candidates (options : List Opt) (argument : List Char) : List Mention :=
  if isLong argument then
    let (start, text) := splitValue argument
    (namesOf options).filterMap fun (name, opt) =>
      if start.isPrefixOf name then some ⟨opt, false, text⟩ else none
  else
    (namesOf options).filterMap fun (name, opt) =>
      if name == argument.take 2 then some ⟨opt, true, some (argument.drop 2)⟩
      else if argument.isPrefixOf name then some ⟨opt, !isLong name, none⟩
      else none

def written? (options : List Opt) (argument : List Char) : Option Mention :=
  match named? options argument, splitValue argument with
  | some opt, _ => some ⟨opt, !isLong argument, none⟩
  | none, (name, some text) =>
    (named? options name).map fun opt => ⟨opt, !isLong name, some text⟩
  | none, (_, none) => none

/-- What an argument is, apart from the end of the options. A name that is
ambiguous is wrong wherever it stands. -/
def classify (options : List Opt) (argument : List Char) : Except Usage Token :=
  match argument with
  | '-' :: _ :: _ =>
    match written? options argument, candidates options argument with
    | some mention, _ | none, [mention] => .ok (.mention mention)
    | none, [] =>
      if isNegativeNumber argument || argument.contains ' ' then .ok .value else .ok .unknown
    | none, _ => .error .wrong
  | _ => .ok .value

def tokens (options : List Opt) : List String → Except Usage (List (String × Token))
  | [] => .ok []
  | "--" :: rest => .ok (("--", .endOfOptions) :: rest.map fun argument => (argument, .value))
  | argument :: rest => do
    let token ← classify options argument.toList
    .ok ((argument, token) :: (← tokens options rest))

end RecordQuery.Command
