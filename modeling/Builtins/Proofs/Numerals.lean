import Builtins.Literal
import Mathlib.Data.List.TakeWhile

/-!
# Reading numerals back

The decimal text of a word is an integer literal that denotes the word. Digits are read from the
left with the sign already known, so the smallest word can be read although its absolute value is no
word; all that is read on the way is no further from zero than the result, so it fits too.

* `toList_toString`, `mem_toString`: the characters of the text of a word.
* `readDigits_eq`: reading digits, in terms of the run of digits at the front.
* `toWord_toString`: reading the text of a word gives the word.
-/
namespace Builtins

namespace Decimal

/-! ## Texts of words -/

/-- The characters of the text of a word: a minus sign if it is negative, and its digits. -/
theorem toList_toString (w : Word) :
    (toString w).toList =
      if w.toInt < 0 then '-' :: Nat.toDigits 10 w.toInt.natAbs
      else Nat.toDigits 10 w.toInt.natAbs := by
  have htext : toString w = w.toInt.repr := rfl
  rw [htext, Int.repr_eq_if]
  by_cases hw : 0 ≤ w.toInt
  · rw [if_pos hw, if_neg (by omega), Nat.toList_repr, show w.toInt.toNat = w.toInt.natAbs by omega]
  · rw [if_neg hw, if_pos (by omega), String.toList_append, Nat.toList_repr,
      show (-w.toInt).toNat = w.toInt.natAbs by omega]
    rfl

theorem isDigit_of_mem {n : Nat} {c : Char} (h : c ∈ Nat.toDigits 10 n) : c.isDigit = true :=
  Nat.isDigit_of_mem_toDigits (by decide) (by decide) h

theorem exists_digitChar {c : Char} (h : c.isDigit = true) : ∃ d < 10, c = d.digitChar := by
  have hc : 48 ≤ c.toNat ∧ c.toNat ≤ 57 := by
    simpa [Char.isDigit, UInt32.le_iff_toNat_le] using h
  refine ⟨c.toNat - 48, by omega, Char.toNat_inj.1 ?_⟩
  rw [Nat.toNat_digitChar_of_lt_ten (by omega)]
  omega

/-- The text of a word is made of digits and minus signs. -/
theorem mem_toString {w : Word} {c : Char} (h : c ∈ (toString w).toList) :
    c = '-' ∨ ∃ d < 10, c = d.digitChar := by
  have hdigits : c ∈ Nat.toDigits 10 w.toInt.natAbs → ∃ d < 10, c = d.digitChar := fun hc =>
    exists_digitChar (isDigit_of_mem hc)
  rw [toList_toString] at h
  split at h
  · exact (List.mem_cons.1 h).imp_right hdigits
  · exact .inr (hdigits h)

theorem not_mem_toString {c : Char} (hsign : c ≠ '-') (hdigit : ∀ d < 10, c ≠ d.digitChar)
    (w : Word) : c ∉ (toString w).toList := by
  intro hc
  obtain h | ⟨d, hd, h⟩ := mem_toString hc
  · exact hsign h
  · exact hdigit d hd h

theorem toString_ne_nil (w : Word) : (toString w).toList ≠ [] := by
  rw [toList_toString]
  split
  · simp
  · exact Nat.toDigits_ne_nil

end Decimal

namespace Literal

open Word (Fits)

/-! ## Numbers with a sign -/

/-- A number with a sign. -/
def Sign.apply (sign : Sign) (n : Nat) : Int :=
  match sign with
  | .plus => n
  | .minus => -n

theorem Sign.apply_zero (sign : Sign) : sign.apply 0 = 0 := by cases sign <;> rfl

theorem Sign.fits_zero (sign : Sign) : Fits (sign.apply 0) := by cases sign <;> decide

theorem Sign.extend_apply (sign : Sign) (n d : Nat) :
    sign.extend (sign.apply n) d = sign.apply (10 * n + d) := by
  cases sign with
  | plus => simp [extend, apply]
  | minus =>
    simp only [extend, apply]
    omega

/-- A number that is closer to zero fits if the other one does. -/
theorem Sign.fits_of_le {sign : Sign} {m n : Nat} (h : m ≤ n) (hn : Fits (sign.apply n)) :
    Fits (sign.apply m) := by
  unfold Word.Fits at *
  cases sign <;> simp only [apply] at * <;> omega

/-! ## Runs of digits -/

theorem value?_eq (c : Char) :
    value? c = if c.isDigit then some (c.toNat - '0'.toNat) else none := by
  unfold value?
  simp only [Char.isDigit, Bool.and_eq_true, decide_eq_true_eq, Char.le_def, ge_iff_le]

theorem le_ofDigitChars (cs : List Char) (n : Nat) : n ≤ Nat.ofDigitChars 10 cs n := by
  induction cs generalizing n with
  | nil => simp
  | cons c cs ih =>
    rw [Nat.ofDigitChars_cons]
    have := ih (10 * n + (c.toNat - '0'.toNat))
    omega

/-- Reading digits onto a number: the value of the run of digits at the front has to fit, and then
nothing may follow the run. -/
theorem readDigits_eq (sign : Sign) {n : Nat} (cs : List Char) (h : Fits (sign.apply n)) :
    readDigits sign (sign.apply n) cs =
      if Fits (sign.apply (Nat.ofDigitChars 10 (cs.takeWhile Char.isDigit) n)) then
        if cs.takeWhile Char.isDigit = cs then
          .ok (sign.apply (Nat.ofDigitChars 10 (cs.takeWhile Char.isDigit) n))
        else .error .invalidDigit
      else .error sign.fault := by
  induction cs generalizing n with
  | nil => simp [readDigits, h]
  | cons c cs ih =>
    rw [readDigits, value?_eq]
    by_cases hc : c.isDigit = true
    · simp only [hc, if_true, List.takeWhile_cons, Nat.ofDigitChars_cons, Sign.extend_apply,
        List.cons.injEq, true_and]
      split
      · next hnext => exact ih hnext
      · next hnext =>
        -- the digits that follow only take the value further away
        rw [if_neg fun hfits => hnext (Sign.fits_of_le (le_ofDigitChars _ _) hfits)]
    · simp [hc, h]

theorem readDigits_toDigits (sign : Sign) (n : Nat) (h : Fits (sign.apply n)) :
    readDigits sign 0 (Nat.toDigits 10 n) = .ok (sign.apply n) := by
  have hrun : (Nat.toDigits 10 n).takeWhile Char.isDigit = Nat.toDigits 10 n :=
    List.takeWhile_eq_self_iff.2 fun c hc => Decimal.isDigit_of_mem hc
  rw [← sign.apply_zero, readDigits_eq sign _ sign.fits_zero, hrun,
    Nat.ofDigitChars_toDigits (by decide) (by decide), if_pos h, if_pos rfl]

/-! ## Reading literals -/

theorem read_of_no_sign {cs : List Char} (hne : cs ≠ []) (h : ∀ c ∈ cs, c ≠ '+' ∧ c ≠ '-') :
    read cs = readDigits .plus 0 cs := by
  cases cs with
  | nil => exact absurd rfl hne
  | cons c cs =>
    obtain ⟨hplus, hminus⟩ := h c List.mem_cons_self
    unfold read
    split <;> simp_all

theorem read_minus {cs : List Char} (hne : cs ≠ []) : read ('-' :: cs) = readDigits .minus 0 cs := by
  cases cs with
  | nil => exact absurd rfl hne
  | cons c cs => rfl

theorem read_toString (w : Word) : read (toString w).toList = .ok w.toInt := by
  have hfits := Word.fits_toInt w
  rw [Decimal.toList_toString]
  split
  · next hneg =>
    have hvalue : Sign.minus.apply w.toInt.natAbs = w.toInt := by
      simp only [Sign.apply]
      omega
    rw [read_minus Nat.toDigits_ne_nil, readDigits_toDigits .minus _ (hvalue.symm ▸ hfits), hvalue]
  · next hpos =>
    have hvalue : Sign.plus.apply w.toInt.natAbs = w.toInt := by
      simp only [Sign.apply]
      omega
    have hsign : ∀ c ∈ Nat.toDigits 10 w.toInt.natAbs, c ≠ '+' ∧ c ≠ '-' := by
      intro c hc
      have hdigit := Decimal.isDigit_of_mem hc
      constructor <;> rintro rfl <;> cases hdigit
    rw [read_of_no_sign Nat.toDigits_ne_nil hsign, readDigits_toDigits .plus _ (hvalue.symm ▸ hfits),
      hvalue]

theorem trimmed_of_no_blank {cs : List Char} (h : ∀ c ∈ cs, Text.isBlank c = false) :
    Text.trimmed cs = cs := by
  have hdrop : ∀ xs : List Char, (∀ c ∈ xs, Text.isBlank c = false) → xs.dropWhile Text.isBlank = xs := by
    intro xs hxs
    cases xs with
    | nil => rfl
    | cons c xs => simp [hxs c List.mem_cons_self]
  rw [Text.trimmed, hdrop cs h, hdrop _ (by simpa using h), List.reverse_reverse]

theorem isBlank_digitChar : ∀ d < 10, Text.isBlank d.digitChar = false := by decide

/-- The text of a word denotes the word. -/
theorem toWord_toString (w : Word) : toWord (toString w) = .ok w := by
  have htrim : Text.trimmed (toString w).toList = (toString w).toList := by
    refine trimmed_of_no_blank fun c hc => ?_
    obtain rfl | ⟨d, hd, rfl⟩ := Decimal.mem_toString hc
    · decide
    · exact isBlank_digitChar d hd
  rw [toWord, htrim, read_toString]
  simp only [Int64.ofInt_toInt]

end Literal

end Builtins
