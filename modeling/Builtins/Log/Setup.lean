import Builtins.Log.Line

/-!
# Setting logging up

A process has at most one logger, the first that is installed; what happens before is not logged.
Programs install one from their settings; what embeds only the builtins starts a plain one.
-/
namespace Builtins.Log

structure Logger where
  format : Format := .compact
  output : Output := .stderr
  spanEvents : Bool := false
  deriving DecidableEq, Repr

/-- Why logging cannot be set up. The process ends then. -/
inductive SetupFault where
  | unreadableFilter
  | unopenableOutput
  deriving DecidableEq, Repr

/-- The logging of a process: its logger, whether plain logging was started, and what was logged. -/
structure Logging where
  logger : Option Logger := none
  started : Bool := false
  journal : Journal := {}
  deriving DecidableEq, Repr

namespace Logging

/-- Installs a logger with its filter, unless there is one. -/
def adopt (g : Logging) (logger : Logger) (filter : Filter) : Logging :=
  match g.logger with
  | none => { g with logger := some logger, journal := { g.journal with filter } }
  | some _ => g

/-- What plain logging lets through if the environment does not say. -/
def plainFilter : Filter := Filter.nothing.add ⟨"compy_runtime", some .warn⟩

/-- Starts plain logging. Only the first start does anything. -/
def start (g : Logging) (requested : Option String) : Except SetupFault Unit × Logging :=
  if g.started then (.ok (), g)
  else
    match environmentFilter requested with
    | .error _ => (.error .unreadableFilter, g)
    | .ok filter => (.ok (), { g.adopt {} (filter.getD plainFilter) with started := true })

/-- Installs the logger of the settings, and tells whether it is the first. The warnings about the
filter go to the logger that is there already, and so does the news that there is one. The output is
opened before it is known whether it is needed; `opens` tells whether that succeeds. -/
def install (g : Logging) (s : Settings) (requested : Option String) (opens : Bool) :
    Except SetupFault Bool × Logging :=
  match s.buildFilter requested with
  | .error _ => (.error .unreadableFilter, g)
  | .ok filter =>
    let g := { g with journal := s.warnings.foldl Journal.note g.journal }
    if !opens then (.error .unopenableOutput, g)
    else
      match g.logger with
      | none => (.ok true, g.adopt ⟨s.format, s.output, s.spanEvents⟩ filter)
      | some _ => (.ok false, { g with journal := g.journal.note .alreadySetUp })

/-- The lines logged so far. -/
def lines (g : Logging) : List String :=
  match g.logger with
  | none => []
  | some logger => (g.journal.history.filterMap (Entry.shown logger.spanEvents)).map logger.format.render

end Logging

end Builtins.Log
