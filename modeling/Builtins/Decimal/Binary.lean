/-!
# Binary floating-point numbers

A number of a binary floating-point format, taken apart into its exact value: a sign, an integer
significand and a power of two. Decoding starts from the bits of the number; `nearest` finds the
number closest to a decimal fraction. All of it is exact integer arithmetic.
-/
namespace Builtins.Decimal

/-- A binary interchange format: the width of the stored fraction and of the exponent. -/
structure Format where
  fraction : Nat
  exponent : Nat
  deriving DecidableEq, Repr

namespace Format

/-- Numbers of 64 bits. -/
def double : Format := ⟨52, 11⟩

/-- Numbers of 32 bits. -/
def single : Format := ⟨23, 8⟩

/-- The exponent of the smallest positive number, which is the one of all subnormal numbers. -/
def least (f : Format) : Int := 2 - Nat.pow 2 (f.exponent - 1) - f.fraction

/-- The exponent of the largest numbers. -/
def greatest (f : Format) : Int := Nat.pow 2 (f.exponent - 1) - 1 - f.fraction

end Format

/-- A floating-point number. A finite one is `significand * 2 ^ exponent`; `tight` says that the
gap below it is half the gap above it, as at a power of two. -/
inductive Binary where
  | nan
  | infinite (negative : Bool)
  | finite (negative : Bool) (significand : Nat) (exponent : Int) (tight : Bool)
  deriving DecidableEq, Repr

namespace Binary

/-- The number with the given bits. -/
def ofBits (f : Format) (bits : Nat) : Binary :=
  let fraction := bits % Nat.pow 2 f.fraction
  let exponent := bits / Nat.pow 2 f.fraction % Nat.pow 2 f.exponent
  let negative := bits / Nat.pow 2 (f.fraction + f.exponent) % 2 == 1
  if exponent == Nat.pow 2 f.exponent - 1 then
    if fraction == 0 then .infinite negative else .nan
  else if exponent == 0 then .finite negative fraction f.least false
  else
    .finite negative (Nat.pow 2 f.fraction + fraction) (f.least + exponent - 1)
      (fraction == 0 && exponent != 1)

/-- The quotient rounded to an integer, a half going to the even neighbour. -/
def roundDiv (num den : Nat) : Nat :=
  let q := num / den
  let twice := 2 * (num % den)
  if twice < den || (twice == den && q % 2 == 0) then q else q + 1

/-- The number of format `f` closest to `num / den`, where `den` is positive. -/
def nearestRatio (f : Format) (negative : Bool) (num den : Nat) : Binary :=
  if num == 0 then .finite negative 0 f.least false
  else
    let guess : Int := num.log2 - den.log2 - f.fraction
    -- `num / den` is below `2 ^ (fraction + guess + 1)` and at least `2 ^ (fraction + guess - 1)`
    let below : Bool :=
      num * Nat.pow 2 (-guess).toNat < den * Nat.pow 2 (guess.toNat + f.fraction)
    let exponent := max (if below then guess - 1 else guess) f.least
    let m := roundDiv (num * Nat.pow 2 (-exponent).toNat) (den * Nat.pow 2 exponent.toNat)
    let (m, exponent) :=
      if m == Nat.pow 2 (f.fraction + 1) then (Nat.pow 2 f.fraction, exponent + 1) else (m, exponent)
    if exponent > f.greatest then .infinite negative
    else .finite negative m exponent (m == Nat.pow 2 f.fraction && exponent != f.least)

/-- The number of format `f` closest to `digits * 10 ^ scale`. -/
def nearest (f : Format) (negative : Bool) (digits : Nat) (scale : Int) : Binary :=
  nearestRatio f negative (digits * Nat.pow 10 scale.toNat) (Nat.pow 10 (-scale).toNat)

end Binary

end Builtins.Decimal
