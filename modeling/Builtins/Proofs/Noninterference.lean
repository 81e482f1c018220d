import Builtins.Proofs.Launching

/-!
# What logging cannot change

A launch logs on every path: when it starts, at each call of a builtin, when the program ends and when
it fails. What is logged, how it is written and where it goes is decided by the settings, the level
and the filter in the environment. None of this reaches the program. Two launches that get to the
same program with the same parameters and the same input leave the same behind, apart from the log.

* `Launch.stdout?`: the standard output of a launch, which is only what was printed as long as log
  lines do not go there.
* `perform_withoutLog`: running a program, apart from the log, does not depend on the logging.
* `run_withoutLog`: nor does a whole launch that gets to its program.
* `logging_does_not_interfere`: two launches with any two ways of logging.
-/
namespace Builtins

open Log (IsLevel)

/-- Only if it is asked for, log lines go to the standard output. -/
theorem LogPlace.ofOutput?_ne_stdout {fs : Files} {date : String} {s : LoggingSettings}
    {place : LogPlace} (h : ofOutput? fs date s.toOutput = some place) (hs : s.output ≠ .stdout) :
    place ≠ .stdout := by
  unfold LoggingSettings.toOutput at h
  cases ho : s.output with
  | stdout => exact absurd ho hs
  | stderr =>
    rw [ho] at h
    cases h
    simp
  | file =>
    rw [ho] at h
    simp only [ofOutput?, Option.bind_eq_bind, Option.bind_eq_some_iff] at h
    obtain ⟨⟨_, file⟩, -, hplace⟩ := h
    cases hplace
    simp

namespace Launch

variable {s s' : Surroundings} {st st' : Settings}

/-! ## The log aside -/

/-- What the standard output holds. If log lines go there too, they come between the lines that were
printed, and where depends on when they get there. -/
def stdout? (l : Launch) : Option ByteArray :=
  if l.logPlace = .stdout then none else some l.output

/-- A launch without its log. -/
def withoutLog (l : Launch) : Launch := { l with logPlace := .stderr, logLines := [] }

theorem withoutLog_inj {l l' : Launch} (h : l.withoutLog = l'.withoutLog) :
    l.exit = l'.exit ∧ l.output = l'.output ∧ l.reports = l'.reports ∧ l.unread = l'.unread := by
  simpa only [withoutLog, mk.injEq, true_and] using h

/-- The program runs in the same way whatever logging was set up, and the input is all that it sees of
its surroundings. -/
theorem perform_withoutLog (hinput : s.input = s'.input) (program : Program) (p : Program.Parameters)
    (logging logging' : Log.Logging) (place place' : LogPlace) :
    (perform s program p logging place).withoutLog =
      (perform s' program p logging' place').withoutLog := by
  unfold perform
  rw [hinput]
  obtain ⟨hresult, hconsole⟩ := Script.run_journal (program.script p) ⟨{}, ⟨[.data s'.input]⟩⟩
    ((logging.journal.note (.launched program.name)).enter program.span)
    ((logging'.journal.note (.launched program.name)).enter program.span)
  simp only [Program.run, hresult, hconsole]
  split <;> rfl

theorem perform_logPlace (s : Surroundings) (program : Program) (p : Program.Parameters)
    (logging : Log.Logging) (place : LogPlace) :
    (perform s program p logging place).logPlace = place := by
  unfold perform
  simp only
  split <;> rfl

/-! ## Whole launches -/

/-- A launch that gets to its program and keeps the log away from the standard output: the settings
load, the level that counts is one, the log goes elsewhere and can be set up. -/
structure Quiet (s : Surroundings) (st : Settings) : Prop where
  loads : Loads s st
  isLevel : IsLevel (level s st)
  output : st.logging.output ≠ .stdout
  setsUp : SetsUp s

theorem Quiet.run_eq (h : Quiet s st) (program : Program) :
    ∃ logging place, place ≠ .stdout ∧ run s program = perform s program st.programs logging place := by
  obtain ⟨logging, place, hplace, hrun⟩ := run_of_level h.setsUp program h.loads h.isLevel
  exact ⟨logging, place, LogPlace.ofOutput?_ne_stdout hplace h.output, hrun⟩

theorem Quiet.stdout?_eq (h : Quiet s st) (program : Program) :
    (run s program).stdout? = some (run s program).output := by
  obtain ⟨logging, place, hplace, hrun⟩ := h.run_eq program
  rw [hrun, stdout?, perform_logPlace, if_neg hplace]

theorem run_withoutLog (h : Quiet s st) (h' : Quiet s' st') (hinput : s.input = s'.input)
    (hprograms : st.programs = st'.programs) (program : Program) :
    (run s program).withoutLog = (run s' program).withoutLog := by
  obtain ⟨logging, place, -, hrun⟩ := h.run_eq program
  obtain ⟨logging', place', -, hrun'⟩ := h'.run_eq program
  rw [hrun, hrun', hprograms]
  exact perform_withoutLog hinput program st'.programs logging logging' place place'

/-- Two launches of a program with the same input and the same parameters that get to the program and
keep the log away from the standard output leave the same bytes there, end with the same exit code,
report the same and leave the same unread, whatever else is in their settings, in their files and in
their environments. -/
theorem logging_does_not_interfere (program : Program) (s s' : Surroundings) (st st' : Settings)
    (hs : Quiet s st) (hs' : Quiet s' st') (hinput : s.input = s'.input)
    (hprograms : st.programs = st'.programs) :
    (∃ bytes, (run s program).stdout? = some bytes ∧ (run s' program).stdout? = some bytes) ∧
      (run s program).exit = (run s' program).exit ∧
      (run s program).reports = (run s' program).reports ∧
      (run s program).unread = (run s' program).unread := by
  obtain ⟨hexit, houtput, hreports, hunread⟩ :=
    withoutLog_inj (run_withoutLog hs hs' hinput hprograms program)
  refine ⟨⟨(run s' program).output, ?_, hs'.stdout?_eq program⟩, hexit, hreports, hunread⟩
  rw [hs.stdout?_eq program, houtput]

/-- A launch that nothing is said about. -/
def silent : Surroundings where
  input := [0x37]
  date := ""
  tell := fun _ _ => ""

/-- A launch with the same input where the settings have a filter, of which one part is no directive,
and the environment has a level and a filter of its own. -/
def verbose : Surroundings where
  files := { files := [([Files.bytes Settings.fileName], "logging.filter = \"=,a=5\"".toUTF8)] }
  environment := { level := some " debug".toUTF8, filter := some "info".toUTF8 }
  input := [0x37]
  date := ""
  tell := fun _ _ => ""

theorem quiet_silent : Quiet silent {} := by
  have hloads : Loads silent {} := load_ok_iff.1 (by cbv)
  refine ⟨hloads, ?_, by decide, setsUp_of_stream hloads rfl (by decide)⟩
  unfold IsLevel
  cbv

theorem quiet_verbose : Quiet verbose { logging := { filter := some "=,a=5" } } := by
  have hloads : Loads verbose { logging := { filter := some "=,a=5" } } := load_ok_iff.1 (by cbv)
  have hfilter : Log.environmentFilter (asText? verbose.environment.filter) =
      .ok (some (Log.Filter.nothing.add (.upTo .info))) := by
    rw [show asText? verbose.environment.filter = some "info" by cbv]
    decide
  refine ⟨hloads, ?_, by decide, setsUp_of_stream hloads hfilter (by decide)⟩
  unfold IsLevel
  cbv

theorem logging_does_not_interfere_verbose :
    Quiet silent {} ∧ Quiet verbose { logging := { filter := some "=,a=5" } } ∧
      silent.input = verbose.input ∧
      ∃ bytes, (run silent .arithmetic).stdout? = some bytes ∧
        (run verbose .arithmetic).stdout? = some bytes := by
  obtain ⟨hbytes, -⟩ :=
    logging_does_not_interfere .arithmetic silent verbose _ _ quiet_silent quiet_verbose rfl rfl
  exact ⟨quiet_silent, quiet_verbose, rfl, hbytes⟩

end Launch

end Builtins
