import Builtins.Decimal.Shortest
import Builtins.Log.Settings
import Builtins.Toml.Document

/-!
# Settings

What a settings file can say. Every key may be left out and has a default; keys that mean nothing are
passed over. The first value in the file that is not of its type is reported.
-/
namespace Builtins

/-- Where log lines go. -/
inductive Destination where
  | stderr
  | stdout
  | file
  deriving DecidableEq, Repr

/-- The section on logging. -/
structure LoggingSettings where
  level : String := "warn"
  format : Log.Format := .compact
  output : Destination := .stderr
  directory : String := "logs"
  stem : String := "compy"
  spanEvents : Bool := false
  filter : Option String := none
  deriving DecidableEq, Repr

structure Settings where
  logging : LoggingSettings := {}
  programs : Program.Parameters := {}
  deriving DecidableEq, Repr

/-- Why a text gives no settings. -/
inductive SettingsFault where
  /-- The text is no document. -/
  | malformed
  /-- A choice is neither a text nor a table with one empty entry. -/
  | misshapen
  | unknownVariant (found : String) (expected : List String)
  | wrongType (found expected : String)
  deriving DecidableEq, Repr

/-- The wording, for the faults that have one. -/
def SettingsFault.message? : SettingsFault → Option String
  | malformed => none
  | misshapen => none
  | unknownVariant found expected =>
    let choices := ", ".intercalate (expected.map fun e => s!"`{e}`")
    some s!"unknown variant `{found}`, expected one of {choices}"
  | wrongType found expected => some s!"invalid type: {found}, expected {expected}"

/-! ## Reading values -/

namespace Toml.Value

/-- What a value is called when it is of the wrong type. -/
def found : Value → String
  | string s => s!"string {Text.quoted s}"
  | integer z => s!"integer `{z}`"
  | float b => s!"floating point `{b.pointed}`"
  | boolean b => s!"boolean `{b}`"
  | moment => "map"
  | array _ => "sequence"
  | table .. => "map"
  | tables _ => "sequence"

def asText (expected : String) : Value → Except SettingsFault String
  | string s => .ok s
  | v => .error (.wrongType v.found expected)

def asBool : Value → Except SettingsFault Bool
  | boolean b => .ok b
  | v => .error (.wrongType v.found "a boolean")

def asWord : Value → Except SettingsFault Word
  | integer z => .ok (Int64.ofInt z)
  | v => .error (.wrongType v.found "i64")

/-- One of several named choices. -/
def choose {α : Type} (choices : List (String × α)) (name : String) : Except SettingsFault α :=
  match choices.lookup name with
  | some a => .ok a
  | none => .error (.unknownVariant name (choices.map (·.1)))

/-- Whether a value is a table or an array with nothing in it. -/
def isVoid : Value → Bool
  | table _ [] => true
  | array [] => true
  | _ => false

/-- A choice: its name, or a table whose only key is its name and holds nothing. -/
def asChoice {α : Type} (choices : List (String × α)) : Value → Except SettingsFault α
  | string name => choose choices name
  | table _ [(name, v)] => do
    let a ← choose choices name
    if v.isVoid then .ok a else .error .misshapen
  | _ => .error .misshapen

/-- The entries of a section: a table, or an array that gives the values of the keys in their order.
A date or a time counts as a table without keys. -/
def asSection (expected : String) (keys : List String) : Value → Except SettingsFault Entries
  | table _ es => .ok es
  | array vs => .ok (keys.zip vs)
  | tables ts => .ok (keys.zip (ts.map (table .header)))
  | moment => .ok []
  | v => .error (.wrongType v.found expected)

end Toml.Value

/-! ## Reading sections -/

namespace LoggingSettings

def keys : List String := ["level", "format", "output", "directory", "prefix", "span_events", "filter"]

def formats : List (String × Log.Format) := [("pretty", .pretty), ("compact", .compact), ("json", .json)]

def destinations : List (String × Destination) :=
  [("stderr", .stderr), ("stdout", .stdout), ("file", .file)]

/-- Sets the field of a key. -/
def set (s : LoggingSettings) (entry : String × Toml.Value) : Except SettingsFault LoggingSettings :=
  match entry with
  | ("level", v) => do return { s with level := ← v.asText "a string" }
  | ("format", v) => do return { s with format := ← v.asChoice formats }
  | ("output", v) => do return { s with output := ← v.asChoice destinations }
  | ("directory", v) => do return { s with directory := ← v.asText "path string" }
  | ("prefix", v) => do return { s with stem := ← v.asText "a string" }
  | ("span_events", v) => do return { s with spanEvents := ← v.asBool }
  | ("filter", v) => do return { s with filter := some (← v.asText "a string") }
  | _ => .ok s

def ofEntries (es : Toml.Entries) : Except SettingsFault LoggingSettings := es.foldlM set {}

end LoggingSettings

namespace Program.Parameters

def keys : List String := ["fib_index", "count_to"]

/-- Sets the field of a key. -/
def set (p : Parameters) (entry : String × Toml.Value) : Except SettingsFault Parameters :=
  match entry with
  | ("fib_index", v) => do return { p with fibIndex := ← v.asWord }
  | ("count_to", v) => do return { p with countTo := ← v.asWord }
  | _ => .ok p

def ofEntries (es : Toml.Entries) : Except SettingsFault Parameters := es.foldlM set {}

end Program.Parameters

namespace Settings

/-- Reads the section of a key. -/
def set (s : Settings) (entry : String × Toml.Value) : Except SettingsFault Settings :=
  match entry with
  | ("logging", v) => do
    let es ← v.asSection "struct LoggingConfig" LoggingSettings.keys
    return { s with logging := ← LoggingSettings.ofEntries es }
  | ("programs", v) => do
    let es ← v.asSection "struct ProgramConfig" Program.Parameters.keys
    return { s with programs := ← Program.Parameters.ofEntries es }
  | _ => .ok s

/-- The settings in the entries of a document. -/
def ofEntries (es : Toml.Entries) : Except SettingsFault Settings := es.foldlM set {}

/-- The settings in a text. -/
def parse (text : String) : Except SettingsFault Settings :=
  match Toml.document text with
  | none => .error .malformed
  | some es => ofEntries es

/-- Whether two texts are the same relative path: slashes at the end and single dots after the first
part do not count. -/
def samePath (a b : String) : Bool := parts a == parts b
where
  /-- The parts of a path that count. -/
  parts (path : String) : List (List Char) :=
    match Text.pieces '/' path.toList with
    | [] => []
    | first :: rest => first :: rest.filter fun p => !p.isEmpty && p != ['.']

/-- Whether the settings are the defaults. -/
def isDefault (s : Settings) : Bool :=
  { s with logging := { s.logging with directory := ({} : LoggingSettings).directory } } == {} &&
    samePath s.logging.directory ({} : LoggingSettings).directory

end Settings

/-! ## From settings to logging -/

namespace LoggingSettings

/-- Where lines go; only a file has a directory and a name. -/
def toOutput (s : LoggingSettings) : Log.Output :=
  match s.output with
  | .stderr => .stderr
  | .stdout => .stdout
  | .file => .file s.directory s.stem

/-- The log settings, if the level is one; otherwise the text that should have been a level. -/
def toLog (s : LoggingSettings) : Except String Log.Settings :=
  match Log.Level.parse? (Text.trimmed s.level.toList) with
  | none => .error s.level
  | some level =>
    .ok { level, format := s.format, output := s.toOutput, spanEvents := s.spanEvents, filter := s.filter }

end LoggingSettings

end Builtins
