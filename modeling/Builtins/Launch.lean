import Builtins.Files
import Builtins.Log.Setup
import Builtins.Program
import Builtins.Settings

/-!
# Launching a program

What the command line does: it loads the settings, sets logging up, runs a program on the standard
streams and ends with an exit code. A fault before the run is reported and nothing else
happens; a fault of the run is logged and then reported.
-/
namespace Builtins

/-- The variables that matter. They hold any bytes. -/
structure Environment where
  config : Option ByteArray := none
  level : Option ByteArray := none
  filter : Option ByteArray := none

/-- A variable as text; one that is no text counts as not set. -/
def asText? (bytes : Option ByteArray) : Option String := bytes.bind String.fromUTF8?

/-- Why a program cannot be launched. A file that gives no settings comes with the parser's account of
where and why. -/
inductive LaunchFault where
  | unreadable (path : String) (reason : ReadFault)
  | unparsable (path : String) (reason : SettingsFault) (account : String)
  | unknownLevel (text : String)
  deriving DecidableEq, Repr

def LaunchFault.message : LaunchFault → String
  | unreadable path reason => s!"failed to read config {path}: {reason.message}"
  | unparsable path _ account => s!"failed to parse config {path}: {account}"
  | unknownLevel text =>
    s!"unknown log level '{text}' (expected trace, debug, info, warn or error)"

namespace Settings

/-- How the parser tells where and why a text gives no settings. Its wording is its own, so what is
done with an account does not depend on what it says. -/
abbrev Account := String → SettingsFault → String

/-- The name of the settings file in the working directory. -/
def fileName : String := "compy.toml"

/-- The settings that were read from a file; `path` names it in a fault. -/
def ofRead (tell : Account) (path : String) : Except ReadFault String → Except LaunchFault Settings
  | .error reason => .error (.unreadable path reason)
  | .ok text =>
    match parse text with
    | .error reason => .error (.unparsable path reason (tell text reason))
    | .ok s => .ok s

/-- The same, but the defaults if there is no such file. -/
def ofReadOrDefault (tell : Account) (path : String) :
    Except ReadFault String → Except LaunchFault Settings
  | .error reason => if reason.tellsNoFile then .ok {} else ofRead tell path (.error reason)
  | .ok text => ofRead tell path (.ok text)

/-- Loads the settings from the file that is asked for, which has to be there, or from the one in the
working directory, or takes the defaults. -/
def load (tell : Account) (fs : Files) (explicit : Option (List UInt8)) : Except LaunchFault Settings :=
  match explicit with
  | some path => ofRead tell (Text.lossy path.toByteArray) (fs.read path)
  | none =>
    let path := Files.path (fs.workingDirectory ++ [Files.bytes fileName])
    ofReadOrDefault tell (Text.lossy path.toByteArray) (fs.read path)

/-- The settings with the level that the environment asks for. -/
def withLevel (s : Settings) (level : Option String) : Settings :=
  match level with
  | none => s
  | some level => { s with logging := { s.logging with level } }

end Settings

namespace LoggingSettings

/-- The log settings, or the fault of the level. -/
def checked (s : LoggingSettings) : Except LaunchFault Log.Settings :=
  match s.toLog with
  | .ok log => .ok log
  | .error text => .error (.unknownLevel text)

end LoggingSettings

/-- What a launch starts from: the files, the variables, what can be read from the standard input, the
day, and what the parser says about a text that gives no settings. -/
structure Surroundings where
  files : Files := {}
  environment : Environment := {}
  input : List UInt8 := []
  date : String
  tell : Settings.Account

/-- Where log lines have gone. -/
inductive LogPlace where
  | stdout
  | stderr
  | file (place : Place)
  deriving DecidableEq, Repr

/-- Where log lines go, with the file made if there is one; nowhere if it cannot be made. -/
def LogPlace.ofOutput? (fs : Files) (date : String) : Log.Output → Option LogPlace
  | .stdout => some .stdout
  | .stderr => some .stderr
  | .file directory stem => do
    let (_, place) ← fs.prepare? (Files.bytes (Files.join directory (Files.logName stem date)))
    return .file place

/-- What a launch leaves: the exit code, what was printed, what was reported, fault by fault, where log
lines went and which, and the bytes that were not read. -/
structure Launch where
  exit : Nat
  output : ByteArray := ByteArray.empty
  reports : List String := []
  logPlace : LogPlace := .stderr
  logLines : List String := []
  unread : Nat

/-- What is reported for a fault. -/
def faultLine (message : String) : String := "Error: " ++ message

namespace Launch

/-- The exit code of a process whose logging cannot be set up. -/
def brokenSetup : Nat := 101

/-- The settings of a launch. -/
def settings (s : Surroundings) : Except LaunchFault Settings := do
  let loaded ← Settings.load s.tell s.files (s.environment.config.map fun bytes => bytes.data.toList)
  return loaded.withLevel (asText? s.environment.level)

/-- Runs a program once logging is set up. -/
def perform (s : Surroundings) (program : Program) (p : Program.Parameters) (logging : Log.Logging)
    (logPlace : LogPlace) : Launch :=
  let console : Console := ⟨{}, ⟨[.data s.input]⟩⟩
  let outcome := program.run p console (logging.journal.note (.launched program.name))
  let output := outcome.console.sink.contents
  let unread := outcome.console.source.unread
  match outcome.result with
  | .ok () =>
    let logLines := { logging with journal := outcome.journal }.lines
    { exit := 0, output, logPlace, logLines, unread }
  | .error fault =>
    let logLines := { logging with journal := outcome.journal.note (.failed fault program.name) }.lines
    { exit := 1, output, reports := [faultLine fault.message], logPlace, logLines, unread }

/-- Launches a program. -/
def run (s : Surroundings) (program : Program) : Launch :=
  let loaded := do
    let settings ← settings s
    return (settings.programs, ← settings.logging.checked)
  match loaded with
  | .error fault => { exit := 1, reports := [faultLine fault.message], unread := s.input.length }
  | .ok (parameters, log) =>
    let logPlace := LogPlace.ofOutput? s.files s.date log.output
    match ({} : Log.Logging).install log (asText? s.environment.filter) logPlace.isSome, logPlace with
    | (.ok _, logging), some logPlace => perform s program parameters logging logPlace
    | _, _ => { exit := brokenSetup, unread := s.input.length }

end Launch

end Builtins
