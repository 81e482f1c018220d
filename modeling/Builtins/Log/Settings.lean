import Builtins.Log.Filter

/-!
# Log settings

How a process logs: up to which level, in which format, where to, and with which filter.
-/
namespace Builtins.Log

inductive Format where
  | pretty
  | compact
  | json
  deriving DecidableEq, Repr

/-- Where lines go; the name of a log file is its stem and the date. -/
inductive Output where
  | stdout
  | stderr
  | file (directory stem : String)
  deriving DecidableEq, Repr

structure Settings where
  level : Level := .warn
  format : Format := .compact
  output : Output := .stderr
  spanEvents : Bool := false
  filter : Option String := none
  deriving DecidableEq, Repr

/-- The directives in a text, which are parted by commas; empty parts are left out. If one part is no
directive, there are none. -/
def directives (requested : String) : Except DirectiveFault (List Directive) :=
  ((Text.pieces ',' requested.toList).filter (!·.isEmpty)).mapM Directive.parse

/-- The filter that the environment requests, if it does. A request without directives lets nothing
through, and one that is malformed counts as none. -/
def environmentFilter (requested : Option String) : Except DirectiveFault (Option Filter) :=
  match requested with
  | none => .ok none
  | some text =>
    match directives text with
    | .ok ds => .ok (some (Filter.nothing.addAll ds))
    | .error .malformed => .ok none
    | .error .cut => .error .cut

/-- The parts of a filter text, without blanks around them; empty ones are left out. -/
def filterParts (text : String) : List (List Char) :=
  ((Text.pieces ',' text.toList).map Text.trimmed).filter (!·.isEmpty)

/-- The directive of a part; a part that is none stands for the level of the settings. -/
def partDirective (level : Level) (part : List Char) : Directive :=
  match Directive.parse part with
  | .ok d => d
  | .error _ => .upTo level

/-- The parts of a filter text that are no directives. -/
def badParts (text : String) : List String :=
  ((filterParts text).filter fun part => (Directive.parse part).toOption.isNone).map String.ofList

namespace Settings

/-- The filter of the settings: what the environment requests, or else the level, and then the parts
of the filter text. -/
def buildFilter (s : Settings) (requested : Option String) : Except DirectiveFault Filter := do
  let base := (← environmentFilter requested).getD (Filter.nothing.add (.upTo s.level))
  match s.filter with
  | none => return base
  | some text => return base.addAll ((filterParts text).map (partDirective s.level))

/-- What building the filter has to warn about. -/
def warnings (s : Settings) : List Event :=
  match s.filter with
  | none => []
  | some text => (badParts text).map .badDirective

end Settings

end Builtins.Log
