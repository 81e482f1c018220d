import Builtins.Word

/-!
# Faults

Why a builtin function can fail, the short name of each cause and its wording.
-/
namespace Builtins

/-- The computations that can leave the range of words. -/
inductive Operation where
  | add
  | mul
  | pow
  | fib
  deriving DecidableEq, Repr

def Operation.name : Operation → String
  | .add => "add"
  | .mul => "mul"
  | .pow => "pow"
  | .fib => "fib"

/-- Why a text is not an integer literal. -/
inductive LiteralFault where
  | empty
  | invalidDigit
  | tooLarge
  | tooSmall
  deriving DecidableEq, Repr

def LiteralFault.message : LiteralFault → String
  | .empty => "cannot parse integer from empty string"
  | .invalidDigit => "invalid digit found in string"
  | .tooLarge => "number too large to fit in target type"
  | .tooSmall => "number too small to fit in target type"

inductive Fault where
  | zeroStep (start stop : Word)
  | badLiteral (text : String) (reason : LiteralFault)
  | overflow (op : Operation)
  | negativeExponent (exponent : Word)
  | unknownBuiltin (name : String)
  | linkCycle (name : String)
  | invalidUtf8
  | io (text : String)
  deriving DecidableEq, Repr

namespace Fault

/-- The short name of the cause, as it appears in the log. -/
def kind : Fault → String
  | zeroStep .. => "invalid_step"
  | badLiteral .. => "parse"
  | overflow _ => "overflow"
  | negativeExponent _ => "negative_exponent"
  | unknownBuiltin _ => "unknown_builtin"
  | linkCycle _ => "link_cycle"
  | invalidUtf8 => "invalid_utf8"
  | io _ => "io"

def message : Fault → String
  | zeroStep start stop =>
    s!"range() arg 3 must not be zero (start={start}, stop={stop})"
  | badLiteral text _ => s!"invalid literal for int(): '{text}'"
  | overflow op => s!"integer overflow in {op.name}"
  | negativeExponent e => s!"pow() exponent must be non-negative, got {e}"
  | unknownBuiltin name => s!"builtin '{name}' is not defined"
  | linkCycle name => s!"builtin links form a cycle through '{name}'"
  | invalidUtf8 => "input is not valid UTF-8"
  | io text => text

end Fault

end Builtins
