import Builtins.Word

/-!
# Parameters of the programs

Which Fibonacci number is computed and how far is counted.
-/
namespace Builtins.Program

structure Parameters where
  fibIndex : Word := 35
  countTo : Word := 10
  deriving DecidableEq, Repr

/-- Both parameters by name, as the log shows them. -/
def Parameters.describe (p : Parameters) : String :=
  s!"ProgramConfig \x7b fib_index: {p.fibIndex}, count_to: {p.countTo} \x7d"

end Builtins.Program
