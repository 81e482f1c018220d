import Builtins.Literal
import Builtins.Log.Event
import Builtins.Text.Alphanumeric
import Builtins.Text.Lines

/-!
# Filters

A filter decides which events are logged. It is a set of directives, at most one for each target;
of those whose target begins the target of an event, the one with the longest target decides. The
empty target begins every target.
-/
namespace Builtins.Log

/-- How verbose a target may be: up to a level, or not at all. -/
abbrev Limit := Option Level

def Limit.admits (limit : Limit) (level : Level) : Bool := limit.any (level.rank ≤ ·.rank)

structure Directive where
  target : String
  limit : Limit
  deriving DecidableEq, Repr

/-- The directive that lets every target be as verbose as `level`. -/
def Directive.upTo (level : Level) : Directive := ⟨"", some level⟩

def Directive.covers (d : Directive) (target : String) : Bool :=
  d.target.toList.isPrefixOf target.toList

/-- Directives, the latest first. -/
structure Filter where
  directives : List Directive
  deriving DecidableEq, Repr

namespace Filter

/-- Lets nothing through. -/
def nothing : Filter := ⟨[]⟩

/-- Lets everything through. -/
def everything : Filter := ⟨[.upTo .trace]⟩

/-- Adds a directive in place of the one for its target. -/
def add (f : Filter) (d : Directive) : Filter :=
  ⟨d :: f.directives.filter (·.target ≠ d.target)⟩

def addAll (f : Filter) (ds : List Directive) : Filter := ds.foldl add f

/-- The directive with the longest target. -/
def longest : List Directive → Option Directive
  | [] => none
  | d :: ds =>
    match longest ds with
    | none => some d
    | some e => if d.target.length < e.target.length then some e else some d

/-- The directive that decides about a target. -/
def decisive? (f : Filter) (target : String) : Option Directive :=
  longest (f.directives.filter (·.covers target))

def enables (f : Filter) (target : String) (level : Level) : Bool :=
  (f.decisive? target).any (·.limit.admits level)

end Filter

/-! ## Reading levels and directives -/

/-- Equality of texts up to the case of ASCII letters. -/
def sameLetters (a b : List Char) : Bool := a.map Char.toLower == b.map Char.toLower

/-- The level with a name, in any case. -/
def Level.ofName? (cs : List Char) : Option Level := Level.all.find? fun l => sameLetters l.name.toList cs

/-- The level with a rank. -/
def Level.ofRank? (n : Nat) : Option Level := Level.all.find? (·.rank = n)

/-- A level by its rank or its name. -/
def Level.parse? (cs : List Char) : Option Level :=
  match (Literal.count? cs).bind Level.ofRank? with
  | some l => some l
  | none => Level.ofName? cs

/-- A limit: as a level, or nothing at all. -/
def Limit.parse? (cs : List Char) : Option Limit :=
  if Literal.count? cs = some 0 ∨ sameLetters cs "off".toList then some none
  else (Level.parse? cs).map some

/-- Why a text is no directive. -/
inductive DirectiveFault where
  | malformed
  /-- The text cannot be parted where its directive has to be, inside a character. -/
  | cut
  deriving DecidableEq, Repr

/-- Whether a directive can begin with this character. -/
def startsTarget (c : Char) : Bool := c == '-' || c == ':' || c == '_' || Text.isAlphanumeric c

/-- Parts a text after `n` bytes. -/
def splitBytes : Nat → List Char → Option (List Char × List Char)
  | 0, cs => some ([], cs)
  | _ + 1, [] => none
  | n + 1, c :: cs =>
    if c.utf8Size ≤ n + 1 then (splitBytes (n + 1 - c.utf8Size) cs).map fun (a, b) => (c :: a, b)
    else none

/-- Reads a directive: a target, an equals sign and a limit, where no limit means every level; or a
limit for all targets; or a target at every level. Where the equals sign stands is counted in bytes
in the text without blanks around it, but the text is parted with them. Directives for spans and their
fields, which are written with brackets, are left out: a text with one in it counts as malformed. -/
def Directive.parse (text : List Char) : Except DirectiveFault Directive :=
  match Text.trimmed text with
  | [] => .error .malformed
  | c :: cs =>
    if !startsTarget c || (c :: cs).contains '[' then .error .malformed
    else if (c :: cs).contains '=' then
      let place := ((c :: cs).takeWhile (· ≠ '=')).foldr (fun c n => c.utf8Size + n) 0
      match splitBytes place text, splitBytes (place + 1) text with
      | some (target, _), some (_, limit) =>
        if limit.isEmpty then .ok ⟨String.ofList target, some .trace⟩
        else
          match Limit.parse? limit with
          | some limit => .ok ⟨String.ofList target, limit⟩
          | none => .error .malformed
      | _, _ => .error .cut
    else
      match Limit.parse? text with
      | some limit => .ok ⟨"", limit⟩
      | none => .ok ⟨String.ofList text, some .trace⟩

end Builtins.Log
