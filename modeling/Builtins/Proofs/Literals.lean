import Builtins.Proofs.Numerals
import Mathlib

/-!
# The grammar of literals

Which texts denote a word, and why the others do not. Digits are read from the left; what decides is
the run of digits that a literal begins with after its sign. If its value is no word, this is noticed
inside the run, so nothing that follows matters; otherwise all that is left to ask is whether the run
is the whole literal and not empty.

* `Text.Trims`, `trims_trimmed`: what trimming leaves.
* `readWord`, `readWord_eq`: reading a literal by operations on words, which come to the same; a short
  literal is read without checks and does not wrap around.
* `toWord_by_grammar`: the word or the fault of every text.
-/
namespace Builtins

/-! ## Trimming -/

namespace Text

/-- `t` is `cs` without the blanks at its two ends. -/
structure Trims (cs t : List Char) : Prop where
  split : ∃ before after, cs = before ++ t ++ after ∧ ∀ c ∈ before ++ after, isBlank c = true
  head : ∀ c ∈ t.head?, isBlank c = false
  last : ∀ c ∈ t.getLast?, isBlank c = false

theorem trims_trimmed (cs : List Char) : Trims cs (trimmed cs) := by
  have hfront : cs = cs.takeWhile isBlank ++ cs.dropWhile isBlank :=
    List.takeWhile_append_dropWhile.symm
  obtain ⟨after, hafter, hback⟩ : ∃ after, (∀ c ∈ after, isBlank c = true) ∧
      cs.dropWhile isBlank = trimmed cs ++ after := by
    refine ⟨((cs.dropWhile isBlank).reverse.takeWhile isBlank).reverse, fun c hc => ?_, ?_⟩
    · exact List.mem_takeWhile_imp (List.mem_reverse.1 hc)
    · rw [trimmed, ← List.reverse_append, List.takeWhile_append_dropWhile, List.reverse_reverse]
  refine ⟨⟨cs.takeWhile isBlank, after, ?_, fun c hc => ?_⟩, fun c hc => ?_, fun c hc => ?_⟩
  · rw [List.append_assoc, ← hback]
    exact hfront
  · rcases List.mem_append.1 hc with hc | hc
    · exact List.mem_takeWhile_imp hc
    · exact hafter c hc
  · -- the first character that is left is the first one that is no blank
    have hfirst : (cs.dropWhile isBlank).head? = some c := by
      rw [hback, List.head?_append, hc]
      rfl
    simpa [hfirst] using List.head?_dropWhile_not isBlank cs
  · rw [trimmed, List.getLast?_reverse] at hc
    simpa [Option.mem_def.1 hc] using List.head?_dropWhile_not isBlank (cs.dropWhile isBlank).reverse

end Text

namespace Literal

open Word (Fits)

/-! ## Signs -/

/-- The sign of a literal and what follows it. Without a sign it counts as positive. -/
def signed : List Char → Sign × List Char
  | '+' :: cs => (.plus, cs)
  | '-' :: cs => (.minus, cs)
  | cs => (.plus, cs)

/-- What follows the sign, if there is one. -/
abbrev body (cs : List Char) : List Char := (signed cs).2

theorem Sign.apply_mul_ten (sign : Sign) (n : Nat) : sign.apply n * 10 = sign.apply (10 * n) := by
  cases sign <;> simp only [apply] <;> omega

theorem read_eq {cs : List Char} (h : cs ≠ []) :
    read cs = if body cs = [] then .error .invalidDigit else readDigits (signed cs).1 0 (body cs) := by
  unfold body
  fun_cases signed cs with
  | case1 cs => cases cs <;> rfl
  | case2 cs => cases cs <;> rfl
  | case3 hplus hminus =>
    rw [if_neg h]
    fun_cases read cs <;> simp_all

/-! ## Reading by operations on words -/

/-- One more digit, where the word may wrap around. -/
def Sign.wrap (sign : Sign) (acc : Word) (d : Nat) : Word :=
  match sign with
  | .plus => acc * 10 + Int64.ofNat d
  | .minus => acc * 10 - Int64.ofNat d

/-- One more digit on a word that has been multiplied by ten. -/
def Sign.add? (sign : Sign) (tenfold : Word) (d : Nat) : Option Word :=
  match sign with
  | .plus => Word.ofInt? (tenfold.toInt + d)
  | .minus => Word.ofInt? (tenfold.toInt - d)

/-- Reads digits onto a word and does not look whether it wraps around. -/
def readUnchecked (sign : Sign) (acc : Word) : List Char → Except LiteralFault Word
  | [] => .ok acc
  | c :: cs =>
    match value? c with
    | none => .error .invalidDigit
    | some d => readUnchecked sign (sign.wrap acc d) cs

/-- Reads digits onto a word. A product that is no word is only reported if a digit follows. -/
def readChecked (sign : Sign) (acc : Word) : List Char → Except LiteralFault Word
  | [] => .ok acc
  | c :: cs =>
    let tenfold := acc.mul? 10
    match value? c with
    | none => .error .invalidDigit
    | some d =>
      match tenfold.bind (sign.add? · d) with
      | none => .error sign.fault
      | some next => readChecked sign next cs

/-- The number of bytes that are read without checks. -/
def uncheckedBytes : Nat := 15

/-- Reads a literal by operations on words. -/
def readWord (cs : List Char) : Except LiteralFault Word :=
  if cs = [] then .error .empty
  else if body cs = [] then .error .invalidDigit
  else if (String.ofList (body cs)).utf8ByteSize ≤ uncheckedBytes then
    readUnchecked (signed cs).1 0 (body cs)
  else readChecked (signed cs).1 0 (body cs)

theorem Sign.add?_eq (sign : Sign) {acc tenfold : Word} (h : acc.mul? 10 = some tenfold) (d : Nat) :
    sign.add? tenfold d = Word.ofInt? (sign.extend acc.toInt d) := by
  have htenfold : tenfold.toInt = acc.toInt * 10 := Word.ofInt?_eq_some_iff.1 h
  cases sign <;> simp only [add?, extend, htenfold, Int.mul_comm]

/-- The product and the sum are both words exactly if the sum is one. -/
theorem Sign.step?_eq {sign : Sign} {acc : Word} {n : Nat} (h : acc.toInt = sign.apply n) (d : Nat) :
    (acc.mul? 10).bind (sign.add? · d) = Word.ofInt? (sign.apply (10 * n + d)) := by
  cases hproduct : acc.mul? 10 with
  | some tenfold => rw [Option.bind_some, sign.add?_eq hproduct, h, Sign.extend_apply]
  | none =>
    have hten : ¬ Fits (sign.apply (10 * n)) := by
      have := Word.ofInt?_eq_none_iff.1 hproduct
      rwa [h, show (10 : Word).toInt = 10 from rfl, sign.apply_mul_ten] at this
    rw [Option.bind_none, eq_comm, Word.ofInt?_eq_none_iff]
    exact fun hfits => hten (Sign.fits_of_le (by omega) hfits)

theorem readChecked_eq {sign : Sign} {acc : Word} {n : Nat} (h : acc.toInt = sign.apply n)
    (cs : List Char) :
    readChecked sign acc cs = (readDigits sign (sign.apply n) cs).map Int64.ofInt := by
  induction cs generalizing acc n with
  | nil => simp [readChecked, readDigits, ← h, Except.map]
  | cons c cs ih =>
    rw [readChecked, readDigits]
    cases hc : value? c with
    | none => rfl
    | some d =>
      simp only [Sign.step?_eq h, Sign.extend_apply]
      cases hnext : Word.ofInt? (sign.apply (10 * n + d)) with
      | none =>
        rw [if_neg (Word.ofInt?_eq_none_iff.1 hnext)]
        rfl
      | some next =>
        have hvalue := Word.ofInt?_eq_some_iff.1 hnext
        rw [if_pos (hvalue ▸ Word.fits_toInt next)]
        exact ih hvalue

theorem value?_lt {c : Char} {d : Nat} (h : value? c = some d) : d < 10 := by
  rw [value?_eq] at h
  split at h
  · next hc =>
    have hle := (Char.isDigit_iff_toNat.1 hc).2
    cases h
    simp only [Char.reduceToNat] at hle ⊢
    omega
  · cases h

/-- Numbers of at most 15 digits are words. -/
theorem Sign.fits_small (sign : Sign) {n : Nat} (h : n < 10 ^ 15) : Fits (sign.apply n) := by
  unfold Fits
  cases sign <;> simp only [apply] <;> omega

theorem Sign.toInt_wrap {sign : Sign} {acc : Word} {n d : Nat} (h : acc.toInt = sign.apply n)
    (hd : d < 10) (hsmall : 10 * n + d < 10 ^ 15) :
    (sign.wrap acc d).toInt = sign.apply (10 * n + d) := by
  have hdigit : (Int64.ofNat d).toInt = d := Int64.toInt_ofNat_of_lt (by omega)
  have hproduct : (acc * 10).toInt = sign.apply (10 * n) := by
    have hfits := sign.fits_small (show 10 * n < 10 ^ 15 by omega)
    unfold Fits at hfits
    rw [Int64.toInt_mul, h, show (10 : Word).toInt = 10 from rfl, sign.apply_mul_ten,
      Int.bmod_eq_of_le (by omega) (by omega)]
  have hfits := sign.fits_small hsmall
  unfold Fits at hfits
  cases sign with
  | plus =>
    simp only [wrap, apply] at hproduct hfits ⊢
    rw [Int64.toInt_add, hproduct, hdigit, Int.bmod_eq_of_le (by omega) (by omega)]
    omega
  | minus =>
    simp only [wrap, apply] at hproduct hfits ⊢
    rw [Int64.toInt_sub, hproduct, hdigit, Int.bmod_eq_of_le (by omega) (by omega)]
    omega

/-- Reading a few digits without checks. The invariant is that the number stays below `10 ^ 15`
whichever digits are still to come. -/
theorem readUnchecked_eq {sign : Sign} {acc : Word} {n : Nat} (h : acc.toInt = sign.apply n)
    (cs : List Char) (hroom : (n + 1) * 10 ^ cs.length ≤ 10 ^ 15) :
    readUnchecked sign acc cs = (readDigits sign (sign.apply n) cs).map Int64.ofInt := by
  induction cs generalizing acc n with
  | nil => simp [readUnchecked, readDigits, ← h, Except.map]
  | cons c cs ih =>
    rw [readUnchecked, readDigits]
    cases hc : value? c with
    | none => rfl
    | some d =>
      have hd := value?_lt hc
      have hnext : (10 * n + d + 1) * 10 ^ cs.length ≤ 10 ^ 15 := by
        refine Nat.le_trans (Nat.mul_le_mul_right _ (show 10 * n + d + 1 ≤ (n + 1) * 10 by omega)) ?_
        rwa [Nat.mul_assoc, ← Nat.pow_succ']
      have hsmall : 10 * n + d < 10 ^ 15 :=
        Nat.lt_of_lt_of_le (Nat.le_mul_of_pos_right _ (Nat.pos_of_ne_zero (by simp))) hnext
      simp only [Sign.extend_apply, if_pos (sign.fits_small hsmall)]
      exact ih (Sign.toInt_wrap h hd hsmall) hnext

theorem length_le_utf8ByteSize (cs : List Char) : cs.length ≤ (String.ofList cs).utf8ByteSize := by
  induction cs with
  | nil => simp
  | cons c cs ih =>
    have := Char.utf8Size_pos c
    rw [String.ofList_cons, String.utf8ByteSize_append, String.utf8ByteSize_singleton, List.length_cons]
    omega

theorem readWord_eq (cs : List Char) : readWord cs = (read cs).map Int64.ofInt := by
  by_cases hnil : cs = []
  · subst hnil
    rfl
  rw [readWord, if_neg hnil, read_eq hnil]
  by_cases hbody : body cs = []
  · rw [if_pos hbody, if_pos hbody]
    rfl
  have hzero : (0 : Word).toInt = (signed cs).1.apply 0 := by
    rw [Sign.apply_zero]
    rfl
  rw [if_neg hbody, if_neg hbody, ← Sign.apply_zero (signed cs).1]
  split
  · next hshort =>
    refine readUnchecked_eq hzero _ ?_
    rw [Nat.zero_add, Nat.one_mul]
    exact Nat.pow_le_pow_right (by omega) (Nat.le_trans (length_le_utf8ByteSize _) hshort)
  · exact readChecked_eq hzero _

/-! ## Every text -/

/-- The digits that a literal begins with after its sign. -/
abbrev digitRun (cs : List Char) : List Char := (body cs).takeWhile Char.isDigit

/-- The number that these digits denote, with the sign. -/
def runValue (cs : List Char) : Int := (signed cs).1.apply (Nat.ofDigitChars 10 (digitRun cs) 0)

theorem read_eq_run {cs : List Char} (h : cs ≠ []) :
    read cs =
      if Fits (runValue cs) then
        if digitRun cs ≠ [] ∧ digitRun cs = body cs then .ok (runValue cs) else .error .invalidDigit
      else .error (signed cs).1.fault := by
  rw [read_eq h]
  by_cases hbody : body cs = []
  · have hrun : digitRun cs = [] := by rw [digitRun, hbody, List.takeWhile_nil]
    have hfits : Fits (runValue cs) := by
      rw [runValue, hrun]
      exact Sign.fits_zero _
    rw [if_pos hbody, if_pos hfits, if_neg (by simp [hrun])]
  · rw [if_neg hbody, ← Sign.apply_zero (signed cs).1, readDigits_eq _ _ (Sign.fits_zero _)]
    congr 1
    -- a run that is the whole body is not empty, as the body is not
    refine if_congr ⟨fun hrun => ⟨fun hnil => hbody (hrun ▸ hnil), hrun⟩, fun hrun => hrun.2⟩ rfl rfl

/-- A text that is refused as a literal, and the wording of the reason. The fault has the text as it
was given, with its blanks. -/
def Refused (text message : String) : Prop :=
  ∃ reason, toWord text = .error (.badLiteral text reason) ∧ reason.message = message

theorem refused_of_read {text : String} (reason : LiteralFault)
    (h : read (Text.trimmed text.toList) = .error reason) : Refused text reason.message :=
  ⟨reason, by rw [toWord, h], rfl⟩

theorem toWord_eq (text : String) :
    toWord text = (readWord (Text.trimmed text.toList)).mapError (Fault.badLiteral text) := by
  rw [readWord_eq, toWord]
  cases read (Text.trimmed text.toList) <;> rfl

/-- What becomes of a text, without the blanks at its ends. If nothing is left, it is refused as
empty. Otherwise the run of digits after the sign decides: it is too large or too small if its value
is no word, whatever follows it; it denotes its value if it is not empty and nothing follows it; and
in all other cases a character is no digit. Operations on words come to the same, with or without
checks. -/
theorem toWord_by_grammar (text : String) :
    let t := Text.trimmed text.toList
    Text.Trims text.toList t ∧
      toWord text = (readWord t).mapError (Fault.badLiteral text) ∧
      (t = [] → Refused text "cannot parse integer from empty string") ∧
      (t ≠ [] → ¬ Fits (runValue t) →
        ((signed t).1 = .plus → Refused text "number too large to fit in target type") ∧
        ((signed t).1 = .minus → Refused text "number too small to fit in target type")) ∧
      (t ≠ [] → Fits (runValue t) → digitRun t ≠ [] → digitRun t = body t →
        ∃ w, toWord text = .ok w ∧ w.toInt = runValue t) ∧
      (t ≠ [] → Fits (runValue t) → digitRun t = [] ∨ digitRun t ≠ body t →
        Refused text "invalid digit found in string") := by
  intro t
  refine ⟨Text.trims_trimmed _, toWord_eq text, fun hnil => ?_, fun ht hfits => ⟨fun hs => ?_, fun hs => ?_⟩,
    fun ht hfits hrun hall => ?_, fun ht hfits hrun => ?_⟩
  · exact refused_of_read .empty (by rw [show Text.trimmed text.toList = [] from hnil]; rfl)
  · exact refused_of_read .tooLarge (by rw [read_eq_run ht, if_neg hfits, hs]; rfl)
  · exact refused_of_read .tooSmall (by rw [read_eq_run ht, if_neg hfits, hs]; rfl)
  · refine ⟨Int64.ofInt (runValue t), ?_, Int64.toInt_ofInt_of_le hfits.1 hfits.2⟩
    rw [toWord, read_eq_run ht, if_pos hfits, if_pos ⟨hrun, hall⟩]
  · refine refused_of_read .invalidDigit ?_
    rw [read_eq_run ht, if_pos hfits, if_neg]
    rintro ⟨hne, hall⟩
    exact hrun.elim hne (fun h => h hall)

/-- The smallest word with blanks around it and zeros in front, and a number below it that something
follows. -/
theorem toWord_by_grammar_smallest :
    (∃ w, toWord "\u3000-0009223372036854775808\n" = .ok w ∧ w.toInt = -9223372036854775808) ∧
      Refused " -9223372036854775809x" "number too small to fit in target type" := by
  obtain ⟨-, -, -, -, hword, -⟩ := toWord_by_grammar "\u3000-0009223372036854775808\n"
  obtain ⟨-, -, -, hrange, -, -⟩ := toWord_by_grammar " -9223372036854775809x"
  exact ⟨hword (by decide) (by decide) (by decide) (by decide),
    (hrange (by decide) (by decide)).2 (by decide)⟩

end Literal

end Builtins
