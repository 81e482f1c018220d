/-!
# Words

Programs compute with 64-bit signed integers. Every operation is carried out over the integers and
yields a word exactly when its result is one, so nothing ever wraps around.
-/
namespace Builtins

/-- A 64-bit signed integer. -/
abbrev Word := Int64

namespace Word

/-- The integers that a word can hold: from `-2 ^ 63` to below `2 ^ 63`. -/
def Fits (z : Int) : Prop := -0x8000000000000000 ≤ z ∧ z < 0x8000000000000000

instance (z : Int) : Decidable (Fits z) := inferInstanceAs (Decidable (_ ∧ _))

/-- The word with value `z`, if there is one. -/
def ofInt? (z : Int) : Option Word := if Fits z then some (Int64.ofInt z) else none

theorem fits_toInt (w : Word) : Fits w.toInt := ⟨Int64.le_toInt w, Int64.toInt_lt w⟩

theorem ofInt?_eq_some_iff {z : Int} {w : Word} : ofInt? z = some w ↔ w.toInt = z := by
  unfold ofInt?
  constructor
  · intro h
    split at h
    · next hz =>
      obtain rfl := Option.some.inj h
      exact Int64.toInt_ofInt_of_le hz.1 hz.2
    · simp at h
  · rintro rfl
    simp [fits_toInt]

theorem ofInt?_eq_none_iff {z : Int} : ofInt? z = none ↔ ¬ Fits z := by
  unfold ofInt?; split <;> simp_all

/-! ## Arithmetic -/

def add? (a b : Word) : Option Word := ofInt? (a.toInt + b.toInt)

def mul? (a b : Word) : Option Word := ofInt? (a.toInt * b.toInt)

/-- Goes on with a power once its exponent is odd: `acc` has the lowest bit of `n` already, and is
multiplied by a square of the base for each bit of `n` above it that is set. -/
def mulSquares (acc base : Word) (n : Nat) : Option Word :=
  if n ≤ 1 then some acc
  else do
    let square ← base.mul? base
    if n / 2 % 2 = 1 then mulSquares (← acc.mul? square) square (n / 2)
    else mulSquares acc square (n / 2)
termination_by n

/-- `base ^ n` by squaring the base and halving the exponent. While the exponent is even, nothing has to
be multiplied. The base is squared only while the exponent is at least two, so a square that is too large
means a power that is too large. -/
def pow? (base : Word) (n : Nat) : Option Word :=
  if n = 0 then some 1
  else if n % 2 = 0 then do (← base.mul? base).pow? (n / 2)
  else mulSquares base base n
termination_by n

end Word

end Builtins
