import Builtins.Counter
import Builtins.Fibonacci

/-!
# The programs

Four small programs, each of them a script. A run of a program lies in a span that names it; it logs
its start, does its work, flushes the console and logs its end.
-/
namespace Builtins

inductive Program where
  | fibonacci
  | arithmetic
  | counting
  | counterClass
  deriving DecidableEq, Repr

namespace Program

def all : List Program := [fibonacci, arithmetic, counting, counterClass]

def name : Program → String
  | fibonacci => "fibonacci"
  | arithmetic => "arithmetic"
  | counting => "counting"
  | counterClass => "counter_class"

/-- The name of the kind of program. -/
def label : Program → String
  | fibonacci => "Fibonacci"
  | arithmetic => "Arithmetic"
  | counting => "Counting"
  | counterClass => "CounterClass"

def ofName? (name : String) : Option Program := all.find? (·.name = name)

/-! ## What they do -/

/-- Announces the index and prints its Fibonacci number. -/
def fibonacciScript (p : Parameters) : Script Unit := do
  let index ← .str (toString p.fibIndex)
  .say s!"Calculating index {index} of fibonacci series..."
  .sayInt (← Fibonacci.script p.fibIndex)

/-- Computes with constants and with a number that is asked for. -/
def arithmeticScript : Script Unit := do
  .say "Test imported!"
  let a ← .mul (← .add 1 2) 3
  let b ← .add a 4
  let c ← .add b b
  .log (.assigned a b c)
  let answer ← .str (toString c)
  .say s!"The answer is... {answer}"
  let token ← .input "Give me input: "
  .say s!"Testing input: {token}"
  let scaled ← .mul (← .int token) 100
  let product ← .str (toString scaled)
  .say s!"More testing input: {product}"
  .sayInt (← .mul 3 4)
  .sayInt (← .mul 5 6)

/-- Prints the values that a walk has left, until a pull fails. -/
def printValues (c : Range.Cursor) : Script Unit :=
  match _h : c.next with
  | (some w, d) => .print (toString w) fun _ => printValues d
  | (none, _) => .done ()
termination_by c.togo
decreasing_by exact Range.Cursor.togo_next _h

/-- Counts up from zero. -/
def countingScript (p : Parameters) : Script Unit := do
  let r ← .range (Range.upTo p.countTo)
  printValues r.cursor

/-- Makes a counter and increments it. -/
def counterScript : Script Unit := do
  let c ← Counter.create
  .sayInt c.value
  let c ← c.increment
  .sayInt c.value

def body (p : Parameters) : Program → Script Unit
  | fibonacci => fibonacciScript p
  | arithmetic => arithmeticScript
  | counting => countingScript p
  | counterClass => counterScript

/-- The whole of a program. -/
def script (program : Program) (p : Parameters) : Script Unit := do
  .log (.started p)
  program.body p
  .flushed
  .log .finished

/-! ## Running them -/

/-- The span of a run. -/
def span (program : Program) : Log.Span :=
  ⟨"program", .info, "compy::programs", [⟨"name", .text program.name⟩]⟩

def run (program : Program) (p : Parameters) (console : Console) (journal : Log.Journal) : Outcome Unit :=
  let outcome := (program.script p).run console (journal.enter program.span)
  { outcome with journal := outcome.journal.leave program.span }

end Program

end Builtins
