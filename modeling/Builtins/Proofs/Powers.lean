import Builtins.Arith
import Mathlib.Tactic.Ring

/-!
# Powers

`pow` squares the base and multiplies, and each product on the way has to be a word. All of them are
powers of the base with smaller exponents, and none is further from zero than the power itself, so one
that is no word means a power that is none. Words reach one further below zero than above, so that a
product can be no word although its opposite is one; this makes no difference, because every factor of
two or more moves the power away from zero by more than that.

* `fits_pow_of_le`: with a power of an integer all powers below it are words.
* `bind_pow`: so a computation can go through a power below the one that it is to come to.
* `mulSquares_eq`, `pow?_eq`: squaring and multiplying comes to the power over the integers.
* `mulTimes_eq`: so does multiplying by one factor at a time.
* `pow_exact`: what `pow` returns, and when it fails.
-/
namespace Builtins

namespace Word

/-! ## Powers that are words -/

theorem natAbs_le_of_fits {z : Int} (h : Fits z) : z.natAbs ≤ 0x8000000000000000 := by
  unfold Fits at h
  omega

theorem fits_of_natAbs_lt {z : Int} (h : z.natAbs < 0x8000000000000000) : Fits z := by
  unfold Fits
  omega

/-- If a power of an integer is a word, so are the powers below it. -/
theorem fits_pow_of_le {z : Int} {m n : Nat} (h : m ≤ n) (hn : Fits (z ^ n)) : Fits (z ^ m) := by
  rcases Nat.eq_or_lt_of_le h with rfl | hlt
  · exact hn
  · apply fits_of_natAbs_lt
    rw [Int.natAbs_pow]
    by_cases hbase : z.natAbs ≤ 1
    · have hone : z.natAbs ^ m ≤ 1 ^ m := Nat.pow_le_pow_left hbase m
      rw [Nat.one_pow] at hone
      omega
    · -- the power below is strictly closer to zero, which makes up for the missing positive word
      calc z.natAbs ^ m
          < z.natAbs ^ n := Nat.pow_lt_pow_right (by omega) hlt
        _ = (z ^ n).natAbs := (Int.natAbs_pow z n).symm
        _ ≤ 0x8000000000000000 := natAbs_le_of_fits hn

/-- If one integer is a word whenever another is, the other is none when the first is none. -/
theorem ofInt?_none_of_imp {x y : Int} (h : Fits y → Fits x) (hx : ofInt? x = none) :
    ofInt? y = none :=
  ofInt?_eq_none_iff.2 fun hy => ofInt?_eq_none_iff.1 hx (h hy)

/-! ## Squaring and multiplying -/

theorem mul?_pow {z : Int} {a b : Word} {i j : Nat} (ha : a.toInt = z ^ i) (hb : b.toInt = z ^ j) :
    a.mul? b = ofInt? (z ^ (i + j)) := by
  rw [mul?, ha, hb, ← pow_add]

/-- A power that is computed by way of a power below it. -/
theorem bind_pow {z : Int} {m n : Nat} {f : Word → Option Word} (h : m ≤ n)
    (hf : ∀ w : Word, w.toInt = z ^ m → f w = ofInt? (z ^ n)) :
    (ofInt? (z ^ m) >>= f) = ofInt? (z ^ n) := by
  cases hm : ofInt? (z ^ m) with
  | none =>
    rw [ofInt?_none_of_imp (fits_pow_of_le h) hm]
    rfl
  | some w => exact hf w (ofInt?_eq_some_iff.1 hm)

/-- The bits above the lowest one. The invariant is that both words are powers of one integer. -/
theorem mulSquares_eq {z : Int} {acc base : Word} {i j : Nat} (n : Nat) (hacc : acc.toInt = z ^ i)
    (hbase : base.toInt = z ^ j) : acc.mulSquares base n = ofInt? (z ^ (i + 2 * j * (n / 2))) := by
  fun_induction mulSquares acc base n generalizing i j with
  | case1 acc base n hn =>
    rw [show n / 2 = 0 by omega, Nat.mul_zero, Nat.add_zero, eq_comm, ofInt?_eq_some_iff, hacc]
  | case2 acc base n hn ihodd iheven =>
    have hhalf : 1 ≤ n / 2 := by omega
    have hstep : 2 * j ≤ 2 * j * (n / 2) := Nat.le_mul_of_pos_right _ hhalf
    rw [mul?_pow hbase hbase]
    refine bind_pow (by omega) fun square hsquare => ?_
    split
    · next hodd =>
      have hbits : n / 2 = 2 * (n / 2 / 2) + 1 := by omega
      have hexponent : i + (j + j) + 2 * (j + j) * (n / 2 / 2) = i + 2 * j * (n / 2) := by
        conv_rhs => rw [hbits]
        ring
      rw [mul?_pow hacc hsquare]
      refine bind_pow (by omega) fun product hproduct => ?_
      rw [ihodd square hodd product hproduct hsquare, hexponent]
    · next heven =>
      have hbits : n / 2 = 2 * (n / 2 / 2) := by omega
      have hexponent : i + 2 * (j + j) * (n / 2 / 2) = i + 2 * j * (n / 2) := by
        conv_rhs => rw [hbits]
        ring
      rw [iheven square hacc hsquare, hexponent]

theorem pow?_eq (base : Word) (n : Nat) : base.pow? n = ofInt? (base.toInt ^ n) := by
  fun_induction pow? base n with
  | case1 base => rw [pow_zero, eq_comm, ofInt?_eq_some_iff, Int64.toInt_one]
  | case2 base n hzero heven ih =>
    have hbase : base.toInt = base.toInt ^ 1 := (pow_one _).symm
    rw [mul?_pow hbase hbase]
    refine bind_pow (by omega) fun square hsquare => ?_
    rw [ih, hsquare, ← pow_mul, show (1 + 1) * (n / 2) = n by omega]
  | case3 base n hzero hodd =>
    have hbase : base.toInt = base.toInt ^ 1 := (pow_one _).symm
    rw [mulSquares_eq n hbase hbase, show 1 + 2 * 1 * (n / 2) = n by omega]

end Word

namespace Arith

open Word (Fits)

/-! ## One factor at a time -/

/-- One, multiplied by `base` a number of times. -/
def mulTimes (base : Word) : Nat → Except Fault Word
  | 0 => .ok 1
  | n + 1 => do mul (← mulTimes base n) base

theorem checked_eq_ok_iff {op : Operation} {z : Int} {w : Word} :
    checked op (Word.ofInt? z) = .ok w ↔ w.toInt = z := by
  rw [← Word.ofInt?_eq_some_iff]
  cases Word.ofInt? z <;> simp [checked]

theorem checked_eq_error_iff {op : Operation} {z : Int} {fault : Fault} :
    checked op (Word.ofInt? z) = .error fault ↔ ¬ Fits z ∧ fault = .overflow op := by
  rw [← Word.ofInt?_eq_none_iff]
  cases Word.ofInt? z <;> simp [checked, eq_comm]

theorem mulTimes_eq (base : Word) (n : Nat) :
    mulTimes base n = checked .mul (Word.ofInt? (base.toInt ^ n)) := by
  induction n with
  | zero => rw [mulTimes, pow_zero, eq_comm, checked_eq_ok_iff, Int64.toInt_one]
  | succ n ih =>
    rw [mulTimes, ih]
    cases hpower : Word.ofInt? (base.toInt ^ n) with
    | none =>
      rw [Word.ofInt?_none_of_imp (Word.fits_pow_of_le (Nat.le_succ n)) hpower]
      rfl
    | some w =>
      have hvalue := Word.ofInt?_eq_some_iff.1 hpower
      show mul w base = _
      rw [mul, Word.mul?, hvalue, pow_succ]

theorem pow_of_neg {base exponent : Word} (h : exponent.toInt < 0) :
    pow base exponent = .error (.negativeExponent exponent) := by
  rw [pow, if_pos (by rwa [Int64.lt_iff_toInt_lt, Int64.toInt_zero])]

theorem pow_of_nonneg {base exponent : Word} (h : 0 ≤ exponent.toInt) :
    pow base exponent = checked .pow (Word.ofInt? (base.toInt ^ exponent.toInt.toNat)) := by
  rw [pow, if_neg (by rw [Int64.lt_iff_toInt_lt, Int64.toInt_zero]; omega), Word.pow?_eq]

/-- A negative exponent is refused. With any other one `pow` returns the power over the integers if
that is a word, and overflows if it is none; so it agrees with multiplying one by the base as often
as the exponent says, apart from the operation that the overflow names. -/
theorem pow_exact (base exponent : Word) :
    let n := exponent.toInt.toNat
    (pow base exponent = .error (.negativeExponent exponent) ↔ exponent.toInt < 0) ∧
      (0 ≤ exponent.toInt →
        ((∃ w, pow base exponent = .ok w ∧ w.toInt = base.toInt ^ n) ↔ Fits (base.toInt ^ n)) ∧
        (pow base exponent = .error (.overflow .pow) ↔ ¬ Fits (base.toInt ^ n)) ∧
        (∀ w, pow base exponent = .ok w ↔ mulTimes base n = .ok w) ∧
        (pow base exponent = .error (.overflow .pow) ↔ mulTimes base n = .error (.overflow .mul))) := by
  intro n
  refine ⟨⟨fun h => ?_, pow_of_neg⟩, fun h => ?_⟩
  · by_contra hneg
    rw [pow_of_nonneg (by omega), checked_eq_error_iff] at h
    cases h.2
  · simp only [pow_of_nonneg h, mulTimes_eq, checked_eq_ok_iff, checked_eq_error_iff, n, and_true,
      and_self, implies_true]
    constructor
    · rintro ⟨w, hw⟩
      exact hw ▸ Word.fits_toInt w
    · intro hfits
      exact ⟨_, Int64.toInt_ofInt_of_le hfits.1 hfits.2⟩

/-- A power that is the smallest word; its opposite is none. -/
theorem pow_exact_smallest :
    (∃ w, pow (-2) 63 = .ok w ∧ w.toInt = (-2) ^ 63) ∧ pow 2 63 = .error (.overflow .pow) := by
  obtain ⟨-, hsmallest⟩ := pow_exact (-2) 63
  obtain ⟨-, hoverflow⟩ := pow_exact 2 63
  exact ⟨(hsmallest (by decide)).1.2 (by decide), (hoverflow (by decide)).2.1.2 (by decide)⟩

end Arith

end Builtins
