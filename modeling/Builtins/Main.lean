import Builtins.Launch
import Std.Time.Format

/-!
# The command line

The outer layer: it reads the environment and the settings file, opens the log, and carries a script
out on the standard streams, as `Launch.run` does on a console. The first argument names the program.
-/
namespace Builtins.CommandLine

/-! ## Surroundings -/

/-- Why the system could not read a file. -/
def readFault : IO.Error → ReadFault
  | .noFileOrDirectory .. => .notFound
  | .inappropriateType none .. => .isDirectory
  | .inappropriateType (some _) .. => .notDirectory
  | .invalidArgument _ _ "name too long" => .tooLong
  | fault => .other (toString fault)

def readFile (path : String) : IO (Except ReadFault String) := do
  match ← (IO.FS.readBinFile path).toBaseIO with
  | .ok bytes => return Files.decode bytes
  | .error fault => return .error (readFault fault)

/-- An account of a text that gives no settings: what kind of fault it is, and the wording if it has
one. -/
def account : Settings.Account := fun _ reason =>
  "\n".intercalate ("TOML parse error" :: reason.message?.toList)

/-- The settings and what logging makes of them. -/
def loadSettings : IO (Except LaunchFault (Settings × Log.Settings)) := do
  let loaded ← match ← IO.getEnv "COMPY_CONFIG" with
    | some path => Settings.ofRead account path <$> readFile path
    | none =>
      let path := Files.join (toString (← IO.currentDir)) Settings.fileName
      Settings.ofReadOrDefault account path <$> readFile path
  let level ← IO.getEnv "COMPY_LOG_LEVEL"
  return do
    let settings := (← loaded).withLevel level
    return (settings, ← settings.logging.checked)

/-- The present time in UTC, written in a given pattern. -/
def now (pattern : String) : IO String := do
  return (Std.Time.DateTime.ofTimestamp (← Std.Time.Timestamp.now) .UTC).format pattern

/-- Opens the stream that log lines go to. -/
def openLog : Log.Output → IO IO.FS.Stream
  | .stdout => IO.getStdout
  | .stderr => IO.getStderr
  | .file directory stem => do
    let path := Files.join directory (Files.logName stem (← now "uuuu-MM-dd"))
    let parent := Files.parent path
    unless parent.isEmpty do IO.FS.createDirAll parent
    return .ofHandle (← IO.FS.Handle.mk path .append)

/-! ## Running -/

/-- The streams of a run, the bytes that were delivered and not used, and the logging. -/
structure Process where
  input : IO.FS.Stream
  output : IO.FS.Stream
  log : IO.FS.Stream
  pending : IO.Ref (List UInt8)
  logging : IO.Ref Log.Logging

namespace Process

/-- Changes the journal and writes what is new in it. -/
def journal (p : Process) (change : Log.Journal → Log.Journal) : IO Unit := do
  let logging ← p.logging.get
  let changed := { logging with journal := change logging.journal }
  if let some logger := changed.logger then
    for line in changed.lines do
      let time ← now "uuuu-MM-dd'T'HH:mm:ss.SSSSSS'Z'"
      p.log.putStr (logger.format.stamp time line ++ "\n")
    p.log.flush
  p.logging.set { changed with journal := { changed.journal with entries := [] } }

/-- Does something with the streams; a failure of theirs is a fault. -/
def attempt {α : Type} (action : IO α) : IO (Except Fault α) := do
  match ← action.toBaseIO with
  | .ok value => return .ok value
  | .error fault => return .error (.io (toString fault))

/-- Prints a line, which can be seen at once. -/
def print (p : Process) (text : String) : IO (Except Fault Unit) :=
  attempt do
    p.output.write (text ++ "\n").toUTF8
    p.output.flush

/-- Reads on with `token` already collected. -/
partial def collect (p : Process) (token : List UInt8) : IO (List UInt8) := do
  let bytes ← match ← p.pending.get with
    | [] => ByteArray.toList <$> p.input.read 8192
    | bytes => pure bytes
  if bytes.isEmpty then return token
  let (token, left) := Source.absorb token bytes
  p.pending.set left
  if left.isEmpty then p.collect token else return token

def ask (p : Process) (prompt : String) : IO (Except Fault String) := do
  match ← p.print prompt with
  | .error fault => return .error fault
  | .ok () =>
    let token ← attempt (p.collect [])
    return token.bind Source.decode

/-- Carries a script out. -/
def perform {α : Type} (p : Process) : Script α → IO (Except Fault α)
  | .done value => return .ok value
  | .fail fault => return .error fault
  | .note event times next => do
    p.journal (·.noteTimes event times)
    p.perform next
  | .print text next => do
    p.journal (·.note (.called "print"))
    match ← p.print text with
    | .ok () => p.perform (next ())
    | .error fault => return .error fault
  | .ask prompt next => do
    p.journal fun j => (j.note (.called "input")).note (.called "print")
    match ← p.ask prompt with
    | .ok token => p.perform (next token)
    | .error fault => return .error fault
  | .flush next => do
    match ← attempt p.output.flush with
    | .ok () => p.perform (next ())
    | .error fault => return .error fault

/-- Runs a program and logs how it went. -/
def run (p : Process) (program : Program) (parameters : Program.Parameters) : IO (Except Fault Unit) := do
  p.journal (·.note (.launched program.name))
  p.journal (·.enter program.span)
  let result ← p.perform (program.script parameters)
  p.journal (·.leave program.span)
  if let .error fault := result then p.journal (·.note (.failed fault program.name))
  return result

end Process

def report (fault : String) : IO UInt32 := do
  IO.eprintln (faultLine fault)
  return 1

/-- Launches a program and gives the exit code. -/
def launch (program : Program) : IO UInt32 := do
  match ← loadSettings with
  | .error fault => report fault.message
  | .ok (settings, log) =>
    let opened := (← (openLog log.output).toBaseIO).toOption
    match ({} : Log.Logging).install log (← IO.getEnv "RUST_LOG") opened.isSome, opened with
    | (.ok _, logging), some stream =>
      let p : Process := ⟨← IO.getStdin, ← IO.getStdout, stream, ← IO.mkRef [], ← IO.mkRef logging⟩
      match ← p.run program settings.programs with
      | .ok () => return 0
      | .error fault => report fault.message
    | _, _ => return UInt32.ofNat Launch.brokenSetup

/-- What is said when no program is named. -/
def usage : String := "usage: PROGRAM, one of " ++ ", ".intercalate (Program.all.map Program.name)

end Builtins.CommandLine

def main (arguments : List String) : IO UInt32 := do
  match arguments.head?.bind Builtins.Program.ofName? with
  | some program => Builtins.CommandLine.launch program
  | none =>
    IO.eprintln Builtins.CommandLine.usage
    return 2
