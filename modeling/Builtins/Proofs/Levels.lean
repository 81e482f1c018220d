import Builtins.Launch
import Builtins.Proofs.Literals
import Mathlib

/-!
# Spellings of levels

Which texts a section on logging can have as its level. A level is spelled by its number or by its
word, with blanks around it. The number is tried first, but no text is both, so the order does not
matter; a numeral too large to be read as a count is refused like any other that is no level's number.

* `count?_eq_some_iff`: reading a count, by the value of the numeral.
* `anyCase_iff`: comparing letters in small case, by letters that are small or capital.
* `parse?_eq_some_iff`: reading a level finds exactly what is spelled.
* `checked_by_spelling`: the log settings of every section, or its fault.
-/
namespace Builtins

/-! ## Numerals -/

namespace Literal

/-- Decimal digits and their value; zeros may come first. -/
structure Digits (ds : List Char) (n : Nat) : Prop where
  nonempty : ds ≠ []
  digit : ∀ c ∈ ds, c.isDigit = true
  value : Nat.ofDigitChars 10 ds 0 = n

/-- Digits, and a plus sign in front of them or none. -/
def Numeral (cs : List Char) (n : Nat) : Prop := Digits cs n ∨ ∃ ds, cs = '+' :: ds ∧ Digits ds n

theorem Digits.exists_digit {ds : List Char} {n : Nat} (h : Digits ds n) :
    ∃ c ∈ ds, c.isDigit = true := by
  obtain ⟨c, hc⟩ := List.exists_mem_of_ne_nil ds h.nonempty
  exact ⟨c, hc, h.digit c hc⟩

theorem Numeral.exists_digit {cs : List Char} {n : Nat} (h : Numeral cs n) :
    ∃ c ∈ cs, c.isDigit = true := by
  rcases h with h | ⟨ds, rfl, h⟩
  · exact h.exists_digit
  · obtain ⟨c, hc, hdigit⟩ := h.exists_digit
    exact ⟨c, List.mem_cons_of_mem _ hc, hdigit⟩

/-- Reading digits below a bound. Digits that follow only make a number larger, so one that passes the
bound on the way does not come back below it. -/
theorem readBelow_eq_some_iff {bound acc n : Nat} (cs : List Char) (h : acc < bound) :
    readBelow bound acc cs = some n ↔
      (∀ c ∈ cs, c.isDigit = true) ∧ Nat.ofDigitChars 10 cs acc = n ∧ n < bound := by
  induction cs generalizing acc with
  | nil =>
    simp only [readBelow, Option.some.injEq, List.not_mem_nil, false_implies, implies_true, true_and,
      Nat.ofDigitChars_nil]
    exact ⟨fun he => ⟨he, he ▸ h⟩, fun he => he.1⟩
  | cons c cs ih =>
    rw [readBelow, value?_eq]
    by_cases hc : c.isDigit = true
    · simp only [hc, if_true, Option.bind_eq_bind, Option.bind_some, List.forall_mem_cons, true_and,
        Nat.ofDigitChars_cons]
      split
      · next hnext => exact ih hnext
      · next hnext =>
        have hle := le_ofDigitChars cs (10 * acc + (c.toNat - '0'.toNat))
        simp only [false_iff, not_and, reduceCtorEq]
        omega
    · simp [hc]

@[simp] theorem not_digits_nil {n : Nat} : ¬ Digits [] n := fun h => h.nonempty rfl

@[simp] theorem not_digits_plus {cs : List Char} {n : Nat} : ¬ Digits ('+' :: cs) n := by
  intro h
  exact absurd (h.digit '+' List.mem_cons_self) (by decide)

theorem readBelow_eq_some_iff_digits {cs : List Char} {n : Nat} (h : cs ≠ []) :
    readBelow UInt64.size 0 cs = some n ↔ Digits cs n ∧ n < UInt64.size := by
  rw [readBelow_eq_some_iff cs (by decide)]
  exact ⟨fun ⟨hd, hv, hn⟩ => ⟨⟨h, hd, hv⟩, hn⟩, fun ⟨hd, hn⟩ => ⟨hd.digit, hd.value, hn⟩⟩

theorem count?_eq_some_iff {cs : List Char} {n : Nat} :
    count? cs = some n ↔ Numeral cs n ∧ n < UInt64.size := by
  unfold Numeral
  fun_cases count? cs with
  | case1 => simp
  | case2 => simp
  | case3 cs hcs =>
    rw [readBelow_eq_some_iff_digits hcs]
    simp
  | case4 cs hnil hsign hplus =>
    have hnone : ∀ ds, cs ≠ '+' :: ds := hplus
    rw [readBelow_eq_some_iff_digits hnil]
    simp [hnone]

end Literal

/-! ## Levels -/

namespace Log

/-- The number and the word of a level. -/
def Level.spelling : Level → Nat × String
  | error => (1, "error")
  | warn => (2, "warn")
  | info => (3, "info")
  | debug => (4, "debug")
  | trace => (5, "trace")

/-- The letters of a word, each of them small or capital. -/
def AnyCase (word : String) (cs : List Char) : Prop :=
  List.Forall₂ (fun letter c => c = letter ∨ c = letter.toUpper) word.toList cs

/-- A text for a level: a numeral of its number, or its word in any case. -/
def Level.IsSpelling (level : Level) (cs : List Char) : Prop :=
  Literal.Numeral cs level.spelling.1 ∨ AnyCase level.spelling.2 cs

/-! ### Words -/

theorem toLower_eq_iff {letter c : Char} (h : letter.isLower = true) :
    c.toLower = letter ↔ c = letter ∨ c = letter.toUpper := by
  have hsmall : letter.toLower = letter :=
    Char.toLower_eq_of_not_isUpper (Char.not_isUpper_of_isLower h)
  constructor
  · intro hc
    by_cases hupper : c.isUpper = true
    · right
      rw [← hc, Char.toUpper_toLower_eq_toUpper,
        Char.toUpper_eq_of_not_isLower (Char.not_isLower_of_isUpper hupper)]
    · left
      rwa [Char.toLower_eq_of_not_isUpper hupper] at hc
  · rintro (rfl | rfl)
    · exact hsmall
    · rw [Char.toLower_toUpper_eq_toLower, hsmall]

/-- Letters that are small or capital are those that are the same in small case. -/
theorem anyCase_iff {word : String} {cs : List Char} (h : ∀ l ∈ word.toList, l.isLower = true) :
    AnyCase word cs ↔ cs.map Char.toLower = word.toList := by
  unfold AnyCase
  generalize word.toList = letters at h ⊢
  induction letters generalizing cs with
  | nil => simp
  | cons letter letters ih =>
    obtain ⟨hletter, hletters⟩ := List.forall_mem_cons.1 h
    cases cs with
    | nil => simp
    | cons c cs =>
      rw [List.forall₂_cons, ih hletters, ← toLower_eq_iff hletter, List.map_cons, List.cons.injEq]

theorem isLower_of_mem_word (level : Level) : ∀ l ∈ level.spelling.2.toList, l.isLower = true := by
  rw [← List.all_eq_true]
  cases level <;> decide

theorem sameLetters_name_iff {level : Level} {cs : List Char} :
    sameLetters level.name.toList cs = true ↔ AnyCase level.spelling.2 cs := by
  have hname : level.name.toList.map Char.toLower = level.spelling.2.toList := by
    cases level <;> decide
  rw [anyCase_iff (isLower_of_mem_word level), sameLetters, beq_iff_eq, hname, eq_comm]

/-! ### Reading -/

/-- A search among all levels for one that cannot be mistaken for another. -/
theorem find?_all_eq_some_iff {p : Level → Bool} {level : Level}
    (h : ∀ a b, p a = true → p b = true → a = b) :
    Level.all.find? p = some level ↔ p level = true := by
  constructor
  · exact List.find?_some
  · intro hp
    cases hfind : Level.all.find? p with
    | none => exact absurd hp (List.find?_eq_none.1 hfind level (by cases level <;> decide))
    | some found => rw [h found level (List.find?_some hfind) hp]

theorem ofRank?_eq_some_iff {n : Nat} {level : Level} :
    Level.ofRank? n = some level ↔ level.spelling.1 = n := by
  have hrank : ∀ l : Level, l.rank = l.spelling.1 := by intro l; cases l <;> rfl
  rw [Level.ofRank?, find?_all_eq_some_iff]
  · simp [hrank]
  · intro a b ha hb
    have hab : a.rank = b.rank := (of_decide_eq_true ha).trans (of_decide_eq_true hb).symm
    revert hab
    cases a <;> cases b <;> decide

theorem ofName?_eq_some_iff {cs : List Char} {level : Level} :
    Level.ofName? cs = some level ↔ AnyCase level.spelling.2 cs := by
  rw [Level.ofName?, find?_all_eq_some_iff, sameLetters_name_iff]
  intro a b ha hb
  -- both words are the text in small letters
  rw [sameLetters_name_iff, anyCase_iff (isLower_of_mem_word _)] at ha hb
  have hword : a.spelling.2.toList = b.spelling.2.toList := ha.symm.trans hb
  revert hword
  cases a <;> cases b <;> decide

/-- A numeral has a digit in it and a word has none. -/
theorem not_anyCase_of_numeral {cs : List Char} {n : Nat} (h : Literal.Numeral cs n) (level : Level) :
    ¬ AnyCase level.spelling.2 cs := by
  obtain ⟨c, hmem, hdigit⟩ := h.exists_digit
  intro hword
  rw [anyCase_iff (isLower_of_mem_word level)] at hword
  have hlower := isLower_of_mem_word level c.toLower (hword ▸ List.mem_map_of_mem hmem)
  rw [Char.isLower_toLower_eq_isAlpha] at hlower
  simp only [Char.isAlpha, Char.isUpper, Char.isLower, Char.isDigit, Char.reduceVal, Bool.or_eq_true,
    Bool.and_eq_true, decide_eq_true_eq, ge_iff_le, UInt32.le_iff_toNat_le, UInt32.reduceToNat]
    at hlower hdigit
  omega

theorem ofCount?_eq_some_iff {cs : List Char} {level : Level} :
    (Literal.count? cs).bind Level.ofRank? = some level ↔ Literal.Numeral cs level.spelling.1 := by
  have hsmall : level.spelling.1 < UInt64.size := by cases level <;> decide
  simp [Option.bind_eq_some_iff, ofRank?_eq_some_iff, Literal.count?_eq_some_iff, hsmall]

theorem parse?_eq_some_iff {cs : List Char} {level : Level} :
    Level.parse? cs = some level ↔ level.IsSpelling cs := by
  unfold Level.parse? Level.IsSpelling
  rw [← ofCount?_eq_some_iff, ← ofName?_eq_some_iff]
  cases hcount : (Literal.count? cs).bind Level.ofRank? with
  | none => simp
  | some found =>
    have hnone : Level.ofName? cs ≠ some level := by
      rw [Ne, ofName?_eq_some_iff]
      exact not_anyCase_of_numeral (ofCount?_eq_some_iff.1 hcount) level
    simp [hnone]

end Log

/-! ## Sections -/

namespace LoggingSettings

/-- Where the lines of a section go; only a file has a directory and a name. -/
inductive Leads (s : LoggingSettings) : Destination → Log.Output → Prop where
  | stderr : Leads s .stderr .stderr
  | stdout : Leads s .stdout .stdout
  | file : Leads s .file (.file s.directory s.stem)

/-- What log settings take over from a section as it is. -/
structure Carries (s : LoggingSettings) (log : Log.Settings) : Prop where
  format : log.format = s.format
  output : s.Leads s.output log.output
  spanEvents : log.spanEvents = s.spanEvents
  filter : log.filter = s.filter

theorem leads_iff {s : LoggingSettings} {output : Log.Output} :
    s.Leads s.output output ↔ output = s.toOutput := by
  unfold toOutput
  constructor
  · intro h
    cases hs : s.output <;> rw [hs] at h <;> cases h <;> rfl
  · rintro rfl
    cases s.output <;> constructor

/-- Log settings are the level and what is carried over. -/
theorem carries_iff {s : LoggingSettings} {log : Log.Settings} :
    s.Carries log ↔ log = ⟨log.level, s.format, s.toOutput, s.spanEvents, s.filter⟩ := by
  obtain ⟨level, format, output, spanEvents, filter⟩ := log
  simp only [Log.Settings.mk.injEq, true_and, ← leads_iff]
  exact ⟨fun h => ⟨h.format, h.output, h.spanEvents, h.filter⟩,
    fun ⟨hformat, houtput, hspans, hfilter⟩ => ⟨hformat, houtput, hspans, hfilter⟩⟩

theorem checked_eq_ok_iff {s : LoggingSettings} {log : Log.Settings} :
    s.checked = .ok log ↔ log.level.IsSpelling (Text.trimmed s.level.toList) ∧ s.Carries log := by
  rw [← Log.parse?_eq_some_iff, carries_iff, checked, toLog]
  cases Log.Level.parse? (Text.trimmed s.level.toList) with
  | none => simp
  | some level =>
    simp only [Except.ok.injEq, Option.some.injEq]
    constructor
    · rintro rfl
      exact ⟨rfl, rfl⟩
    · rintro ⟨rfl, hlog⟩
      exact hlog.symm

theorem checked_eq_error_iff {s : LoggingSettings} {fault : LaunchFault} :
    s.checked = .error fault ↔ fault = .unknownLevel s.level ∧
      ∀ level : Log.Level, ¬ level.IsSpelling (Text.trimmed s.level.toList) := by
  simp only [← Log.parse?_eq_some_iff]
  rw [checked, toLog]
  cases Log.Level.parse? (Text.trimmed s.level.toList) with
  | none => simp [eq_comm]
  | some level => simp

theorem exists_checked_iff {s : LoggingSettings} :
    (∃ log, s.checked = .ok log) ↔
      ∃ level : Log.Level, level.IsSpelling (Text.trimmed s.level.toList) := by
  constructor
  · rintro ⟨log, hlog⟩
    exact ⟨log.level, (checked_eq_ok_iff.1 hlog).1⟩
  · rintro ⟨level, hlevel⟩
    exact ⟨⟨level, s.format, s.toOutput, s.spanEvents, s.filter⟩,
      checked_eq_ok_iff.2 ⟨hlevel, carries_iff.2 rfl⟩⟩

/-- What becomes of a section. It gives log settings exactly if its level, without the blanks at its
ends, is a spelling of some level; they have this level, and the rest of the section is carried over.
Otherwise the fault holds the level as it was given, with its blanks. -/
theorem checked_by_spelling (s : LoggingSettings) :
    let t := Text.trimmed s.level.toList
    Text.Trims s.level.toList t ∧
      ((∃ log, s.checked = .ok log) ↔ ∃ level : Log.Level, level.IsSpelling t) ∧
      (∀ log, s.checked = .ok log ↔ log.level.IsSpelling t ∧ s.Carries log) ∧
      (∀ fault, s.checked = .error fault ↔
        fault = .unknownLevel s.level ∧ ∀ level : Log.Level, ¬ level.IsSpelling t) := by
  intro t
  refine ⟨Text.trims_trimmed _, exists_checked_iff, fun log => ?_, fun fault => ?_⟩
  · exact checked_eq_ok_iff
  · exact checked_eq_error_iff

/-- A numeral with a plus sign and many zeros, and one that is `2 ^ 64` more than the number of a
level; the fault has the blank in front of it. -/
theorem checked_by_spelling_zeros :
    LoggingSettings.checked
        { level := "\u3000+00000000000000000000003\n", output := .file, directory := "a/./b", stem := "" } =
      .ok { level := .info, output := .file "a/./b" "" } ∧
    LoggingSettings.checked { level := " 18446744073709551617" } =
      .error (.unknownLevel " 18446744073709551617") ∧
    ∀ level : Log.Level, ¬ level.IsSpelling "18446744073709551617".toList := by
  obtain ⟨-, -, hok, -⟩ := checked_by_spelling
    { level := "\u3000+00000000000000000000003\n", output := .file, directory := "a/./b", stem := "" }
  obtain ⟨-, -, -, herror⟩ := checked_by_spelling { level := " 18446744073709551617" }
  have hrefused : LoggingSettings.checked { level := " 18446744073709551617" } =
      .error (.unknownLevel " 18446744073709551617") := by decide
  refine ⟨(hok _).2 ⟨?_, rfl, .file, rfl, rfl⟩, hrefused, ((herror _).1 hrefused).2⟩
  exact .inl (.inr ⟨"00000000000000000000003".toList, by decide, by decide,
    List.all_eq_true.1 (by decide), by decide⟩)

end LoggingSettings

end Builtins
