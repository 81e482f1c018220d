import Builtins.Fault

/-!
# Arithmetic builtins

`add`, `mul` and `pow` on words. A result outside the range of words is a fault that names the
operation; a power with a negative exponent is a fault of its own, whatever the base.
-/
namespace Builtins.Arith

/-- The word computed by `op`, or the overflow of `op`. -/
def checked (op : Operation) : Option Word → Except Fault Word
  | some w => .ok w
  | none => .error (.overflow op)

def add (a b : Word) : Except Fault Word := checked .add (a.add? b)

def mul (a b : Word) : Except Fault Word := checked .mul (a.mul? b)

def pow (base exponent : Word) : Except Fault Word :=
  if exponent < 0 then .error (.negativeExponent exponent)
  else checked .pow (base.pow? exponent.toInt.toNat)

end Builtins.Arith
