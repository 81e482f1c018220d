import Builtins.Proofs.Cursors
import Builtins.Proofs.Filters
import Builtins.Proofs.Numerals
import Mathlib

/-!
# Texts of ranges

The text of a range is a call that makes it. A step of one is left out, and whether the range has any
values is not said at all; the text tells the range nevertheless, because both can be made up for when
the call is read: two arguments mean a step of one, and the rest follows from the three numbers.

* `arguments`, `ofText?`: reading a call.
* `arguments_text`: the arguments in the text of a range; the commas of the call are the only ones.
* `ofText?_text`: reading the text of a range gives the range.
* `text_identifies_range`: so different ranges have different texts.
-/
namespace Builtins

/-! ## Numerals in a text -/

/-- A blank in front of a numeral makes no difference. -/
theorem Literal.toWord_blank (w : Word) : toWord (" " ++ toString w) = .ok w := by
  have htrim : Text.trimmed (" " ++ toString w).toList =
      Text.trimmed (toString w).toList := by
    rw [String.toList_append]
    rfl
  have hword := toWord_toString w
  rw [toWord] at hword ⊢
  rw [htrim]
  cases hread : read (Text.trimmed (toString w).toList) with
  | ok z =>
    rw [hread] at hword
    exact hword
  | error reason =>
    rw [hread] at hword
    cases hword

namespace Range

/-! ## Reading a call -/

/-- The arguments of a call: what stands between its parentheses, parted at the commas. -/
def arguments (text : String) : List String :=
  let inside := ((text.toList.dropWhile (· ≠ '(')).drop 1).takeWhile (· ≠ ')')
  (Text.pieces ',' inside).map String.ofList

/-- The range that a call makes whose arguments are integer literals, two or three of them. -/
def ofText? (text : String) : Option Range := do
  match ← (arguments text).mapM fun a => (Literal.toWord a).toOption with
  | [start, stop] => some (between start stop)
  | [start, stop, step] => (new start stop step).toOption
  | _ => none

variable {r s : Range}

theorem arguments_of_inside {text : String} {inside : List Char}
    (htext : text.toList = "range(".toList ++ inside ++ [')']) (h : ')' ∉ inside) :
    arguments text = (inside.splitOn ',').map String.ofList := by
  have hopen : (text.toList.dropWhile (· ≠ '(')).drop 1 = inside ++ [')'] := by
    rw [htext]
    simp
  have hclose : (inside ++ [')']).takeWhile (· ≠ ')') = inside := by
    rw [List.takeWhile_append_of_pos]
    · simp
    · intro c hc
      simpa using fun heq : c = ')' => h (heq ▸ hc)
  rw [arguments, hopen, hclose, Text.pieces_eq_splitOn]

/-! ## The text of a range -/

/-- The numbers in the text of a range. -/
def numbers (r : Range) : List Word :=
  if r.step = 1 then [r.start, r.stop] else [r.start, r.stop, r.step]

/-- The characters of numbers in a call; all but the first have a blank in front of them. -/
def spelled : List Word → List (List Char)
  | [] => []
  | w :: ws => (toString w).toList :: ws.map fun v => ' ' :: (toString v).toList

theorem toList_text (r : Range) :
    r.text.toList = "range(".toList ++ [','].intercalate (spelled r.numbers) ++ [')'] := by
  rw [text, numbers]
  split <;> simp [spelled, toString]

/-- The only commas in the text of a range are those between its numbers. -/
theorem arguments_text (r : Range) : arguments r.text = (spelled r.numbers).map String.ofList := by
  have hcomma : ∀ w : Word, ',' ∉ (toString w).toList :=
    Decimal.not_mem_toString (by decide) (by decide)
  have hclose : ∀ w : Word, ')' ∉ (toString w).toList :=
    Decimal.not_mem_toString (by decide) (by decide)
  have hpieces : ∀ p ∈ spelled r.numbers, ',' ∉ p := by
    rw [numbers]
    split <;> simp [spelled, hcomma]
  have hinside : ')' ∉ [','].intercalate (spelled r.numbers) := by
    rw [numbers]
    split <;> simp [spelled, hclose]
  have hne : spelled r.numbers ≠ [] := by
    rw [numbers]
    split <;> exact List.cons_ne_nil _ _
  rw [arguments_of_inside (toList_text r) hinside, List.splitOn_intercalate _ hpieces hne]

/-- Each argument denotes its number. -/
theorem words_text (r : Range) :
    (arguments r.text).mapM (fun a => (Literal.toWord a).toOption) = some r.numbers := by
  rw [arguments_text, numbers]
  split <;> simp [spelled, Literal.toWord_toString, Literal.toWord_blank, Except.toOption]

/-! ## Ranges and their texts -/

/-- The range has been made by one of the constructors. -/
inductive Made : Range → Prop where
  | upTo (stop : Word) : Made (upTo stop)
  | between (start stop : Word) : Made (between start stop)
  | new {start stop step : Word} {r : Range} (h : new start stop step = .ok r) : Made r

theorem Made.eq_build (h : Made r) : r = build r.start r.stop r.step r.step_ne_zero := by
  cases h with
  | upTo stop => rfl
  | between start stop => rfl
  | new h =>
    obtain ⟨hstep, rfl⟩ := new_ok_iff.1 h
    rfl

theorem ofText?_text (h : Made r) : ofText? r.text = some r := by
  have hbuild := h.eq_build
  rw [ofText?, words_text, numbers]
  by_cases hone : r.step = 1
  · rw [if_pos hone]
    simp only [hone] at hbuild
    exact congrArg some hbuild.symm
  · rw [if_neg hone]
    have hnew : new r.start r.stop r.step = .ok r := new_ok_iff.2 ⟨r.step_ne_zero, hbuild⟩
    simp [hnew, Except.toOption]

/-- Two ranges that the constructors have made have the same text exactly if they agree in all fields,
whether their texts show the step or not. The text can be read back: it has two arguments if the step
is one and three otherwise, and the range made from the words that they denote is the range. -/
theorem text_identifies_range (r s : Range) (hr : Made r) (hs : Made s) :
    (r.text = s.text ↔ r.start = s.start ∧ r.stop = s.stop ∧ r.step = s.step ∧
      r.exhausted = s.exhausted) ∧
      (arguments r.text).length = (if r.step = 1 then 2 else 3) ∧ ofText? r.text = some r := by
  refine ⟨⟨fun htext => ?_, fun ⟨hstart, hstop, hstep, hexhausted⟩ => ?_⟩, ?_, ofText?_text hr⟩
  · have hread : some r = some s := by rw [← ofText?_text hr, htext, ofText?_text hs]
    obtain rfl := Option.some.inj hread
    exact ⟨rfl, rfl, rfl, rfl⟩
  · cases r
    cases s
    simp_all
  · rw [arguments_text, numbers]
    split <;> rfl

/-- Both texts begin with the smallest word and end with minus one, as the bound of one range and as the
step of the other. -/
theorem text_identifies_range_extreme :
    let r := between Int64.minValue (-1)
    let s := build Int64.minValue 1 (-1) (by decide)
    Made r ∧ Made s ∧ r.text ≠ s.text ∧ ofText? r.text = some r ∧ ofText? s.text = some s := by
  intro r s
  have hr : Made r := .between _ _
  have hs : Made s := .new (show new Int64.minValue 1 (-1) = .ok s by decide)
  obtain ⟨htexts, -, hread⟩ := text_identifies_range r s hr hs
  have hstop : r.stop ≠ s.stop := by decide
  exact ⟨hr, hs, fun h => hstop (htexts.1 h).2.1, hread, (text_identifies_range s r hs hr).2.2⟩

end Range

end Builtins
