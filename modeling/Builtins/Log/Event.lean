import Builtins.Program.Parameters
import Builtins.Range
import Builtins.Registry
import Builtins.Text.Quoted

/-!
# What is logged

An `Event` is something that happened; its `record` says how it is logged: at which level, under
which target, with which message and fields. A `Span` is a stretch of time that events lie in.
-/
namespace Builtins.Log

/-- How much an event matters, the most important first. -/
inductive Level where
  | error
  | warn
  | info
  | debug
  | trace
  deriving DecidableEq, Repr

namespace Level

/-- The place of the level, counted from one. -/
def rank : Level → Nat
  | error => 1
  | warn => 2
  | info => 3
  | debug => 4
  | trace => 5

def name : Level → String
  | error => "ERROR"
  | warn => "WARN"
  | info => "INFO"
  | debug => "DEBUG"
  | trace => "TRACE"

def all : List Level := [error, warn, info, debug, trace]

end Level

/-- The value of a field. Text is quoted in a line; what is `shown` is written as it is. -/
inductive Value where
  | int (z : Int)
  | bool (b : Bool)
  | text (s : String)
  | shown (s : String)
  deriving DecidableEq, Repr

structure Field where
  name : String
  value : Value
  deriving DecidableEq, Repr

structure Record where
  level : Level
  target : String
  message : String
  fields : List Field := []
  deriving DecidableEq, Repr

inductive Event where
  /-- A builtin function is called. -/
  | called (name : String)
  /-- A value is converted from one type to another. -/
  | converted (source target : String)
  /-- A range is built. -/
  | ranged (r : Range)
  /-- A builtin is registered. -/
  | registered (b : Builtin)
  /-- A program starts on its console. -/
  | started (p : Program.Parameters)
  /-- The arithmetic program has assigned its variables. -/
  | assigned (a b c : Word)
  /-- A program has ended without a fault. -/
  | finished
  /-- A fault is reported. -/
  | failed (fault : Fault) (context : String)
  /-- The command line starts a program. -/
  | launched (program : String)
  /-- Logging is set up a second time. -/
  | alreadySetUp
  /-- A part of a filter is no directive. -/
  | badDirective (text : String)
  deriving DecidableEq, Repr

def Event.record : Event → Record
  | called name => ⟨.trace, "builtins", "builtin function called", [⟨"name", .text name⟩]⟩
  | converted source target =>
    ⟨.trace, "builtins", "type conversion", [⟨"from", .text source⟩, ⟨"to", .text target⟩]⟩
  | ranged r =>
    ⟨.trace, "builtins", "range constructed",
      [⟨"start", .int r.start.toInt⟩, ⟨"stop", .int r.stop.toInt⟩, ⟨"step", .int r.step.toInt⟩,
       ⟨"exhausted", .bool r.exhausted⟩]⟩
  | registered b =>
    ⟨.debug, "builtins", "registering builtin",
      [⟨"name", .shown b.name⟩, ⟨"links", .shown (Text.quotedList b.links)⟩]⟩
  | started p => ⟨.debug, "programs", "starting", [⟨"config", .shown p.describe⟩]⟩
  | assigned a b c =>
    ⟨.debug, "programs", "assignments evaluated",
      [⟨"a", .int a.toInt⟩, ⟨"b", .int b.toInt⟩, ⟨"c", .int c.toInt⟩]⟩
  | finished => ⟨.debug, "programs", "finished", []⟩
  | failed fault context =>
    ⟨.error, "runtime", "runtime error",
      [⟨"kind", .text fault.kind⟩, ⟨"error", .shown fault.message⟩, ⟨"context", .text context⟩]⟩
  | launched program => ⟨.info, "compy::frontend::cli", "starting", [⟨"program", .text program⟩]⟩
  | alreadySetUp =>
    ⟨.debug, "compy::infrastructure::logging", "global subscriber already set, keeping it", []⟩
  | badDirective text =>
    ⟨.warn, "compy::infrastructure::logging", s!"Invalid filter directive: {text}", []⟩

structure Span where
  name : String
  level : Level
  target : String
  fields : List Field
  deriving DecidableEq, Repr

end Builtins.Log
