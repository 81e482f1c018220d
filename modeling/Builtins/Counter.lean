import Builtins.Script

/-!
# Counters

An object with one field. Making one prints a number first, so it can fail.
-/
namespace Builtins

structure Counter where
  value : Word := 0
  deriving DecidableEq, Repr

namespace Counter

/-- A new counter; it announces itself. -/
def create : Script Counter := do
  .sayInt 123
  return {}

/-- The counter with one more. -/
def increment (c : Counter) : Script Counter := do
  let value ← .add c.value 1
  return { c with value }

end Counter

end Builtins
