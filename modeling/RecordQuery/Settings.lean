import RecordQuery.Json.Writing

/-!
# Settings

Settings come in three sections and a flag. What is given is laid over the
defaults: key by key in the engine and the output section, and for each
type of data source in the provider section.
-/

namespace RecordQuery

structure Settings where
  engine : Record
  output : Record
  providers : Record
  debug : Value

namespace Settings

def defaultEngine : Record :=
  [("primary_key_field", .text "id"), ("max_query_length", .int 1000),
    ("fallback_on_error", .bool true)]

def defaultOutput : Record :=
  [("output_format", .text "console"), ("max_results", .null), ("max_width", .null)]

def defaultProviders : Record := [
  ("csv", .object [("delimiter", .text ","), ("encoding", .text "utf-8"),
    ("list_fields", .list []), ("list_delimiter", .text "|")]),
  ("json", .object [("records_path", .null), ("encoding", .text "utf-8")])]

/-- Lays the settings of one type of data source over those it has. -/
def mergeProvider (providers : Record) (type : String) (given : Value) : Record :=
  providers.set type (.object (Record.update (providers.get type).fields given.fields))

def mergeProviders (providers : Record) (given : Record) : Record :=
  given.foldl (fun merged entry => mergeProvider merged entry.1 entry.2) providers

/-- Lays sections over the defaults; what is no object gives nothing. -/
def new (engine output providers debug : Value) : Settings where
  engine := Record.update defaultEngine engine.fields
  output := Record.update defaultOutput output.fields
  providers := mergeProviders defaultProviders providers.fields
  debug := debug

def default : Settings := new .null .null .null (.bool false)

def engineSetting (settings : Settings) (key : String) (fallback : Value) : Value :=
  (settings.engine.find? key).getD fallback

def outputSetting (settings : Settings) (key : String) (fallback : Value) : Value :=
  (settings.output.find? key).getD fallback

def providerSetting (settings : Settings) (type key : String) (fallback : Value) : Value :=
  ((settings.providers.get type).fields.find? key).getD fallback

def keyField (settings : Settings) : Value := settings.engine.get "primary_key_field"

def setEngine (settings : Settings) (key : String) (value : Value) : Settings :=
  { settings with engine := settings.engine.set key value }

def setProvider (settings : Settings) (type key : String) (value : Value) : Settings :=
  { settings with
    providers := mergeProvider settings.providers type (.object [(key, value)]) }

def toValue (settings : Settings) : Value :=
  .object [
    ("engine_settings", .object settings.engine),
    ("output_settings", .object settings.output),
    ("provider_settings", .object settings.providers),
    ("debug_mode", settings.debug)]

def ofFields (fields : Record) : Settings :=
  new (fields.get "engine_settings") (fields.get "output_settings")
    (fields.get "provider_settings") ((fields.find? "debug_mode").getD (.bool false))

def text (settings : Settings) : List Char := Json.write true settings.toValue

end Settings

end RecordQuery
