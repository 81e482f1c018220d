import Builtins.Script

/-!
# Fibonacci numbers

The number at an index is the sum of the two before it. Written as a double recursion (`recursive`),
computing it calls `add` once for each sum. `script` has the same result and the same log, but adds
up from below and counts the calls without making them.
-/
namespace Builtins.Fibonacci

/-- The Fibonacci numbers at `n` and after it. -/
def pair : Nat → Nat × Nat
  | 0 => (0, 1)
  | n + 1 =>
    let p := pair n
    (p.2, p.1 + p.2)

/-- The largest index whose Fibonacci number is a word. -/
def lastIndex : Word := 92

theorem toInt_sub_of_two_le {w : Word} (h : ¬ w ≤ 1) {k : Word} (hk : k = 1 ∨ k = 2) :
    (w - k).toInt = w.toInt - k.toInt := by
  have h1 : 1 < w.toInt := by
    have := mt Int64.le_iff_toInt_le.2 h
    rw [show (1 : Word).toInt = 1 from rfl] at this
    omega
  have h2 := Int64.toInt_lt w
  rw [Int64.toInt_sub]
  rcases hk with rfl | rfl
  · rw [show (1 : Word).toInt = 1 from rfl, Int.bmod_eq_of_le (by omega) (by omega)]
  · rw [show (2 : Word).toInt = 2 from rfl, Int.bmod_eq_of_le (by omega) (by omega)]

/-- The double recursion. An index below two is its own number, and one that is too large is refused
at once. -/
def recursive (index : Word) : Script Word :=
  if index > lastIndex then .fail (.overflow .fib)
  else if _h : index ≤ 1 then .done index
  else do
    let a ← recursive (index - 1)
    let b ← recursive (index - 2)
    .add a b
termination_by index.toInt.toNat
decreasing_by
  all_goals
    have h1 : 1 < index.toInt := by
      have := mt Int64.le_iff_toInt_le.2 _h
      rw [show (1 : Word).toInt = 1 from rfl] at this
      omega
  · rw [toInt_sub_of_two_le _h (Or.inl rfl), show (1 : Word).toInt = 1 from rfl]
    omega
  · rw [toInt_sub_of_two_le _h (Or.inr rfl), show (2 : Word).toInt = 2 from rfl]
    omega

/-- The number at an index, with the log of the double recursion, which calls `add` one time less
than the next number says. -/
def script (index : Word) : Script Word :=
  if index > lastIndex then .fail (.overflow .fib)
  else if index ≤ 1 then .done index
  else
    let (value, next) := pair index.toInt.toNat
    .note (.called "add") (next - 1) (.done (Int64.ofNat value))

end Builtins.Fibonacci
