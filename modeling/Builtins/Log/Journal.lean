import Builtins.Log.Filter

/-!
# Journals

A journal collects what its filter lets through, each event together with the spans that were open
when it happened.
-/
namespace Builtins.Log

/-- Something logged, and the open spans around it, the innermost first. -/
inductive Entry where
  | event (e : Event) (within : List Span)
  | opened (s : Span) (within : List Span)
  | closed (s : Span) (within : List Span)
  deriving DecidableEq, Repr

/-- `spans` are the open spans, the innermost first; `entries` has the latest first. -/
structure Journal where
  filter : Filter := .nothing
  spans : List Span := []
  entries : List Entry := []
  deriving DecidableEq, Repr

namespace Journal

def keeps (j : Journal) (e : Event) : Bool := j.filter.enables e.record.target e.record.level

/-- Logs an event a number of times. -/
def noteTimes (j : Journal) (e : Event) (times : Nat) : Journal :=
  if j.keeps e then { j with entries := List.replicate times (.event e j.spans) ++ j.entries } else j

def note (j : Journal) (e : Event) : Journal := j.noteTimes e 1

/-- Opens a span, unless the filter keeps it out. -/
def enter (j : Journal) (s : Span) : Journal :=
  if j.filter.enables s.target s.level then
    { j with spans := s :: j.spans, entries := .opened s j.spans :: j.entries }
  else j

/-- Closes a span that `enter` opened. -/
def leave (j : Journal) (s : Span) : Journal :=
  if j.filter.enables s.target s.level then
    { j with spans := j.spans.tail, entries := .closed s j.spans.tail :: j.entries }
  else j

/-- The entries in the order in which they were logged. -/
def history (j : Journal) : List Entry := j.entries.reverse

end Journal

end Builtins.Log
