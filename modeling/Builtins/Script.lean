import Builtins.Arith
import Builtins.Console
import Builtins.Literal
import Builtins.Log.Journal

/-!
# Scripts

A script is what a program does: it logs events, prints texts, asks for tokens, flushes, and ends
with a value or a fault. Running it on a console and a journal carries it out until it ends or one
of its actions fails. Scripts are data, so what holds of every action holds of every script.
-/
namespace Builtins

inductive Script (α : Type) where
  | done (value : α)
  | fail (fault : Fault)
  | note (event : Log.Event) (times : Nat) (next : Script α)
  | print (text : String) (next : Unit → Script α)
  | ask (prompt : String) (next : String → Script α)
  | flush (next : Unit → Script α)

/-- How a run ended, and the console and the journal after it. -/
structure Outcome (α : Type) where
  result : Except Fault α
  console : Console
  journal : Log.Journal

namespace Script

/-- Does `f` after `s`. -/
def bind {α β : Type} (s : Script α) (f : α → Script β) : Script β :=
  match s with
  | done value => f value
  | fail fault => .fail fault
  | note event times next => .note event times (next.bind f)
  | print text next => .print text fun u => (next u).bind f
  | ask prompt next => .ask prompt fun t => (next t).bind f
  | flush next => .flush fun u => (next u).bind f

instance : Monad Script where
  pure := done
  bind := bind

/-- A script that only has a result. -/
def ofExcept {α : Type} : Except Fault α → Script α
  | .ok value => .done value
  | .error fault => .fail fault

/-- Carries a script out. A call of `print` and of `input` is logged before anything is written; the
prompt of `input` is printed by a call of `print`. -/
def run {α : Type} (s : Script α) (console : Console) (journal : Log.Journal) : Outcome α :=
  match s with
  | done value => ⟨.ok value, console, journal⟩
  | fail fault => ⟨.error fault, console, journal⟩
  | note event times next => next.run console (journal.noteTimes event times)
  | print text next =>
    let journal := journal.note (.called "print")
    match console.print text with
    | (.ok (), console) => (next ()).run console journal
    | (.error fault, console) => ⟨.error fault, console, journal⟩
  | ask prompt next =>
    let journal := (journal.note (.called "input")).note (.called "print")
    match console.ask prompt with
    | (.ok token, console) => (next token).run console journal
    | (.error fault, console) => ⟨.error fault, console, journal⟩
  | flush next =>
    match console.flush with
    | .ok () => (next ()).run console journal
    | .error fault => ⟨.error fault, console, journal⟩

/-! ## Actions -/

def log (event : Log.Event) : Script Unit := .note event 1 (.done ())

/-- Prints a text and a line feed. -/
def say (text : String) : Script Unit := .print text .done

/-- Prints a prompt and reads a token. -/
def input (prompt : String) : Script String := .ask prompt .done

def flushed : Script Unit := .flush .done

/-- Prints an integer. -/
def sayInt (w : Word) : Script Unit := say (toString w)

/-! ## Logged calls of builtins -/

def add (a b : Word) : Script Word := do
  log (.called "add")
  ofExcept (Arith.add a b)

def mul (a b : Word) : Script Word := do
  log (.called "mul")
  ofExcept (Arith.mul a b)

def pow (base exponent : Word) : Script Word := do
  log (.called "pow")
  ofExcept (Arith.pow base exponent)

/-- Reads an integer literal. -/
def int (text : String) : Script Word := do
  log (.converted "str" "int")
  ofExcept (Literal.toWord text)

/-- Gives the text of a number on. -/
def str (text : String) : Script String := do
  log (.converted "number" "str")
  return text

/-- Logs a range and gives it on. -/
def range (r : Range) : Script Range := do
  log (.ranged r)
  return r

/-- Builds a range with any step; nothing is logged if there is none. -/
def newRange (start stop step : Word) : Script Range := do
  range (← ofExcept (Range.new start stop step))

end Script

end Builtins
