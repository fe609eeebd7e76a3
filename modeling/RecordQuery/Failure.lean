import RecordQuery.Text.Digit
import RecordQuery.Text.Quoted
import RecordQuery.Value.Printing

/-!
# Failures

Everything that can go wrong is a cause; its wording, its class and the
details reported with it are functions of the cause.
-/

namespace RecordQuery

structure Cause where
  kind : String
  message : String
deriving DecidableEq

namespace Cause

def missingKey (key : String) : Cause := ⟨"KeyError", String.ofList (Text.quoted key.toList)⟩

end Cause

inductive QueryProblem where
  | absent
  | tooLong (limit : Value)

def QueryProblem.message : QueryProblem → String
  | .absent => "Query cannot be None"
  | .tooLong limit => "Query is too long (maximum " ++ limit.shown ++ " characters)"

inductive SettingsProblem where
  | missing | unreadable | noObject

def SettingsProblem.message (path : String) : SettingsProblem → String
  | .missing => "Configuration file not found: " ++ path
  | .unreadable => "Error loading configuration from " ++ path ++ ": ..."
  | .noObject => "Configuration in " ++ path ++ " must be a JSON object"

/-- What was followed into its nested parts when the stack ended. -/
inductive Descent where
  | compiling | searching | printing | converting | encoding | decodingList | decodingObject

def Descent.note : Descent → String
  | .compiling | .searching | .converting => ""
  | .printing => " while getting the repr of an object"
  | .encoding => " while encoding a JSON object"
  | .decodingList => " while decoding a JSON array from a unicode string"
  | .decodingObject => " while decoding a JSON object from a unicode string"

inductive SourceProblem where
  | missing (path : String)
  | unsupported (path extension : String)
  | unknownType (name : String)
  | unloadable (path type : String)

def SourceProblem.message : SourceProblem → String
  | .missing path => "Data source not found: " ++ path
  | .unsupported _ extension => "Unsupported file type: " ++ extension
  | .unknownType name => "Unknown provider type: " ++ name
  | .unloadable path _ => "Could not load data source: " ++ path

def SourceProblem.details : SourceProblem → Record
  | .missing path | .unsupported path _ => [("source_path", .text path)]
  | .unknownType name => [("provider_type", .text name)]
  | .unloadable path type => [("source_path", .text path), ("provider_type", .text type)]

inductive Failure where
  | invalidCondition (text : String)
  /-- An integer beyond the floats met a comparison of floats. -/
  | integerOutOfRange
  | tooManyDigits (count : Nat)
  /-- An integer has more digits than are printed. -/
  | unprintable
  | stackEnded (descent : Descent)
  /-- A list or an object was looked up as the name of a field. -/
  | unhashable (kind : Kind)
  /-- A length was compared with what is no number. -/
  | notOrdered (kind : Kind)
  | unknownConnective (given : String)
  | missingGroup
  | emptySeparator
  | unknownEncoding (name : String)
  | notTextEncoding (name : String)
  | noDelimiter
  | malformedPattern (message : String)
  | noQuery
  | query (cause : Cause) (query : Option String)
  | rejected (problem : QueryProblem) (query : Option String)
  | settings (problem : SettingsProblem) (path : String)
  | source (problem : SourceProblem)

namespace Failure

def kind : Failure → String
  | invalidCondition _ => "InvalidConditionError"
  | integerOutOfRange => "OverflowError"
  | tooManyDigits _ | unprintable | unknownConnective _ | emptySeparator => "ValueError"
  | stackEnded _ => "RecursionError"
  | unhashable _ | notOrdered _ => "TypeError"
  | missingGroup => "MissingGroupError"
  | unknownEncoding _ | notTextEncoding _ => "LookupError"
  | noDelimiter => "Error"
  | malformedPattern _ => "error"
  | noQuery => "AttributeError"
  | query .. => "QueryError"
  | rejected .. => "ValidationError"
  | settings .. => "ConfigurationError"
  | source _ => "DataSourceError"

def message : Failure → String
  | invalidCondition text => "Invalid condition: " ++ text
  | integerOutOfRange => "int too large to convert to float"
  | tooManyDigits count =>
    "Exceeds the limit (4300 digits) for integer string conversion: value has " ++
      toString count ++ " digits; use sys.set_int_max_str_digits() to increase the limit"
  | unprintable =>
    "Exceeds the limit (4300 digits) for integer string conversion; " ++
      "use sys.set_int_max_str_digits() to increase the limit"
  | stackEnded descent => "maximum recursion depth exceeded" ++ descent.note
  | unhashable kind => "unhashable type: '" ++ kind.name ++ "'"
  | notOrdered kind => "'>' not supported between instances of 'int' and '" ++ kind.name ++ "'"
  | unknownConnective given => "Invalid operator: " ++ given
  | missingGroup => "group has no verdict yet"
  | emptySeparator => "empty separator"
  | unknownEncoding name => "unknown encoding: " ++ name
  | notTextEncoding name =>
    "'" ++ name ++ "' is not a text encoding; use codecs.open() to handle arbitrary codecs"
  | noDelimiter => "Could not determine delimiter"
  | malformedPattern message => message
  | noQuery => "'NoneType' object has no attribute 'strip'"
  | query cause _ => "Query error: " ++ cause.message
  | rejected problem _ => problem.message
  | settings problem path => problem.message path
  | source problem => problem.message

def queryValue : Option String → Value
  | none => .null
  | some given => .text given

def details? : Failure → Option Record
  | invalidCondition text => some [("condition", .text text)]
  | query cause given => some
      [("query", queryValue given), ("error", .text cause.message),
        ("error_type", .text cause.kind)]
  | rejected _ given => some [("query", queryValue given)]
  | settings _ path => some [("path", .text path)]
  | source problem => some problem.details
  | _ => none

def cause (failure : Failure) : Cause := ⟨failure.kind, failure.message⟩

/-- The failure of a query on a record, whatever was behind it. -/
def ofQuery (given : Option String) (failure : Failure) : Failure := .query failure.cause given

/-- One of this library's own classes, and so reported rather than passed
on by the command line. -/
def isReported (failure : Failure) : Bool := failure.details?.isSome

end Failure

def attempt {α : Type} (fallback : α) (raise : Bool) : Except Failure α → Except Failure α
  | .ok result => .ok result
  | .error failure => if raise then .error failure else .ok fallback

end RecordQuery
