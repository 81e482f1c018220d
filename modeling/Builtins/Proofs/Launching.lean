import Builtins.Launch
import Builtins.Proofs.Scripts
import Mathlib

/-!
# How a launch ends

A launch goes through three stages: it loads the settings, looks at the level, and runs the program.
The first stage that fails decides what is reported, and the stages after it are not reached. Setting
logging up comes between the level and the program; that it can be done is assumed here.

* `settingsPath?`, `Loads`: where settings come from, and which they are.
* `load_eq`: loading is reading that file, if there is one.
* `Failure`: what a launch reports, stage by stage.
* `run_cases`: all that a launch can come to.
* `launch_ends_by_stage`: the exit code, the report, and what a launch that does not get to the
  program leaves alone.
-/
namespace Builtins

/-! ## Files that are there -/

namespace Files

/-- Whether a path leads to a file. -/
def isFile (fs : Files) (path : List UInt8) : Bool :=
  match fs.locate path with
  | .ok place => (fs.file? place).isSome
  | .error _ => false

theorem step_error {fs : Files} {place : Place} {name : FileName} {reason : ReadFault}
    (h : fs.step place name = .error reason) : reason.tellsNoFile = true := by
  unfold step at h
  split at h
  · cases h; rfl
  · split at h
    · cases h
    · split at h
      · cases h
      · split at h
        · cases h; rfl
        · simp only at h
          split at h
          · cases h
          · cases h; rfl

theorem walk_error {fs : Files} {place : Place} {names : List FileName} {reason : ReadFault}
    (h : names.foldlM fs.step place = .error reason) : reason.tellsNoFile = true := by
  induction names generalizing place with
  | nil => cases h
  | cons name names ih =>
    rw [List.foldlM_cons] at h
    cases hs : fs.step place name with
    | error reason' =>
      rw [hs] at h
      cases h
      exact step_error hs
    | ok next =>
      rw [hs] at h
      exact ih h

theorem locate_error {fs : Files} {path : List UInt8} {reason : ReadFault}
    (h : fs.locate path = .error reason) : reason.tellsNoFile = true := by
  unfold locate checkPath at h
  split at h
  · cases h; rfl
  · split at h
    · cases h; rfl
    · simp only [bind, Except.bind] at h
      split at h
      · cases h; rfl
      · exact walk_error h

theorem decode_error {bytes : ByteArray} {reason : ReadFault} (h : decode bytes = .error reason) :
    reason.tellsNoFile = false := by
  unfold decode at h
  split at h
  · cases h
  · cases h; rfl

/-- What reading a path comes to where there is a file and where there is none. -/
theorem read_cases (fs : Files) (path : List UInt8) :
    (fs.isFile path = true ∧ ∃ bytes, fs.read path = decode bytes) ∨
      (fs.isFile path = false ∧ ∃ reason, fs.read path = .error reason ∧ reason.tellsNoFile = true) := by
  unfold isFile read
  cases hl : fs.locate path with
  | error reason => exact .inr ⟨rfl, reason, rfl, locate_error hl⟩
  | ok place =>
    simp only [bind, Except.bind]
    cases fs.file? place with
    | none => exact .inr ⟨rfl, .isDirectory, rfl, rfl⟩
    | some bytes => exact .inl ⟨rfl, bytes, rfl⟩

end Files

/-! ## Levels -/

/-- A text that names a level, with blanks around it or not. -/
def Log.IsLevel (text : String) : Prop := (Log.Level.parse? (Text.trimmed text.toList)).isSome = true

open Log (IsLevel)

namespace LoggingSettings

theorem checked_of_isLevel {s : LoggingSettings} (h : IsLevel s.level) : ∃ log, s.checked = .ok log := by
  obtain ⟨level, hl⟩ := Option.isSome_iff_exists.1 h
  exact ⟨_, by rw [checked, toLog, hl]⟩

theorem checked_of_not_isLevel {s : LoggingSettings} (h : ¬ IsLevel s.level) :
    s.checked = .error (.unknownLevel s.level) := by
  have hl : Log.Level.parse? (Text.trimmed s.level.toList) = none := by
    simpa [IsLevel] using h
  rw [checked, toLog, hl]

theorem checked_output {s : LoggingSettings} {log : Log.Settings} (h : s.checked = .ok log) :
    log.output = s.toOutput := by
  unfold checked toLog at h
  cases hl : Log.Level.parse? (Text.trimmed s.level.toList) with
  | none =>
    rw [hl] at h
    cases h
  | some level =>
    rw [hl] at h
    cases h
    rfl

end LoggingSettings

namespace Settings

theorem ofReadOrDefault_read (tell : Account) (name : String) (fs : Files) (path : List UInt8) :
    ofReadOrDefault tell name (fs.read path) =
      if fs.isFile path then ofRead tell name (fs.read path) else .ok {} := by
  rcases fs.read_cases path with ⟨hfile, bytes, hread⟩ | ⟨hfile, reason, hread, hreason⟩
  · rw [hfile, hread, if_pos rfl]
    cases hd : Files.decode bytes with
    | error reason => rw [ofReadOrDefault, Files.decode_error hd, if_neg Bool.false_ne_true]
    | ok text => rfl
  · rw [hfile, hread, ofReadOrDefault, hreason, if_pos rfl, if_neg Bool.false_ne_true]

theorem withLevel_toOutput (s : Settings) (level : Option String) :
    (s.withLevel level).logging.toOutput = s.logging.toOutput := by
  cases level <;> rfl

theorem withLevel_programs (s : Settings) (level : Option String) :
    (s.withLevel level).programs = s.programs := by
  cases level <;> rfl

end Settings

theorem Log.Logging.install_fresh {log : Log.Settings} {requested : Option String} {filter : Log.Filter}
    (h : log.buildFilter requested = .ok filter) :
    ∃ logging, ({} : Log.Logging).install log requested true = (.ok true, logging) := by
  unfold install
  rw [h]
  exact ⟨_, rfl⟩

namespace Launch

variable {s : Surroundings} {st : Settings} {program : Program}

/-! ## Loading -/

/-- The path of the settings file in the working directory. -/
def defaultPath (s : Surroundings) : List UInt8 :=
  Files.path (s.files.workingDirectory ++ [Files.bytes Settings.fileName])

/-- The file that the settings come from: the one that is asked for, or else the one in the working
directory if it is there. -/
def settingsPath? (s : Surroundings) : Option (List UInt8) :=
  match s.environment.config with
  | some path => some path.data.toList
  | none => if s.files.isFile (defaultPath s) then some (defaultPath s) else none

/-- A path as faults show it. -/
def shownPath (path : List UInt8) : String := Text.lossy path.toByteArray

/-- The settings that a launch loads, before the environment has its say. -/
def Loads (s : Surroundings) (st : Settings) : Prop :=
  match settingsPath? s with
  | some path => ∃ text, s.files.read path = .ok text ∧ Settings.parse text = .ok st
  | none => st = {}

/-- What loading comes to. -/
def load (s : Surroundings) : Except LaunchFault Settings :=
  Settings.load s.tell s.files (s.environment.config.map fun bytes => bytes.data.toList)

theorem load_eq (s : Surroundings) :
    load s =
      match settingsPath? s with
      | some path => Settings.ofRead s.tell (shownPath path) (s.files.read path)
      | none => .ok {} := by
  unfold load settingsPath?
  cases s.environment.config with
  | some path => rfl
  | none =>
    have hdefault : Settings.load s.tell s.files none =
        Settings.ofReadOrDefault s.tell (shownPath (defaultPath s)) (s.files.read (defaultPath s)) := rfl
    rw [Option.map_none, hdefault, Settings.ofReadOrDefault_read]
    cases s.files.isFile (defaultPath s) <;> rfl

theorem load_ok_iff : load s = .ok st ↔ Loads s st := by
  rw [load_eq, Loads]
  cases settingsPath? s with
  | none => simp [eq_comm]
  | some path =>
    simp only
    cases s.files.read path with
    | error reason => simp [Settings.ofRead]
    | ok text => cases hp : Settings.parse text <;> simp [Settings.ofRead, hp]

/-! ## The stages -/

/-- The level that counts: the one in the environment if it is a text, or else the one in the
settings. -/
def level (s : Surroundings) (st : Settings) : String :=
  (asText? s.environment.level).getD st.logging.level

/-- What the program comes to on the standard streams. -/
def result (s : Surroundings) (program : Program) (st : Settings) : Except Fault Unit :=
  (program.run st.programs ⟨{}, ⟨[.data s.input]⟩⟩ {}).result

/-- Logging can be set up: the filter that is asked for can be read, and the output can be opened. -/
def SetsUp (s : Surroundings) : Prop :=
  ∀ st log, Loads s st → (st.withLevel (asText? s.environment.level)).logging.checked = .ok log →
    (∃ filter, log.buildFilter (asText? s.environment.filter) = .ok filter) ∧
      ∃ place, LogPlace.ofOutput? s.files s.date log.output = some place

/-- What is reported when the program is not run: the settings file cannot be read, or it is no
settings file, or the level is none. -/
inductive Refusal (s : Surroundings) : String → Prop where
  | unreadable {path reason} (hp : settingsPath? s = some path)
    (hr : s.files.read path = .error reason) :
    Refusal s (LaunchFault.unreadable (shownPath path) reason).message
  | unparsable {path text reason} (hp : settingsPath? s = some path)
    (hr : s.files.read path = .ok text) (ht : Settings.parse text = .error reason) :
    Refusal s (LaunchFault.unparsable (shownPath path) reason (s.tell text reason)).message
  | unknownLevel {loaded : Settings} (hs : Loads s loaded) (hl : ¬ IsLevel (level s loaded)) :
    Refusal s (LaunchFault.unknownLevel (level s loaded)).message

/-- What is reported when a launch fails: why the program is not run, or the fault that ends it. -/
inductive Failure (s : Surroundings) (program : Program) : String → Prop where
  | refused {message} (h : Refusal s message) : Failure s program message
  | ended {loaded : Settings} {fault} (hs : Loads s loaded) (hl : IsLevel (level s loaded))
    (hr : result s program loaded = .error fault) : Failure s program fault.message

/-- A launch that does not get to the program. -/
def refused (s : Surroundings) (message : String) : Launch :=
  { exit := 1, reports := [faultLine message], unread := s.input.length }

theorem refusal_of_load_error {fault : LaunchFault} (h : load s = .error fault) :
    Refusal s fault.message := by
  rw [load_eq] at h
  cases hp : settingsPath? s with
  | none =>
    rw [hp] at h
    cases h
  | some path =>
    rw [hp] at h
    cases hr : s.files.read path with
    | error reason =>
      simp only [hr, Settings.ofRead] at h
      cases h
      exact .unreadable hp hr
    | ok text =>
      cases ht : Settings.parse text with
      | error reason =>
        simp only [hr, Settings.ofRead, ht] at h
        cases h
        exact .unparsable hp hr ht
      | ok st =>
        simp only [hr, Settings.ofRead, ht] at h
        cases h

theorem loads_unique {other : Settings} (h : Loads s st) (h' : Loads s other) : st = other :=
  Except.ok.inj ((load_ok_iff.2 h).symm.trans (load_ok_iff.2 h'))

/-- A launch that is refused has no settings, or has no level. -/
theorem Refusal.not_isLevel {message : String} (h : Refusal s message) (hs : Loads s st) :
    ¬ IsLevel (level s st) := by
  have hload := load_ok_iff.2 hs
  rw [load_eq] at hload
  cases h with
  | unreadable hp hr => simp [hp, hr, Settings.ofRead] at hload
  | unparsable hp hr ht => simp [hp, hr, Settings.ofRead, ht] at hload
  | unknownLevel hs' hl => rwa [loads_unique hs hs']

theorem settings_eq (s : Surroundings) :
    settings s = (load s).map (·.withLevel (asText? s.environment.level)) := rfl

theorem run_of_load_error {fault : LaunchFault} (h : load s = .error fault) :
    run s program = refused s fault.message := by
  have hsettings : settings s = .error fault := by
    rw [settings_eq, h]
    rfl
  unfold run
  rw [hsettings]
  rfl

theorem settings_of_loads (h : Loads s st) :
    settings s = .ok (st.withLevel (asText? s.environment.level)) := by
  rw [settings_eq, load_ok_iff.2 h]
  rfl

/-- The level in the environment takes the place of the one in the settings. -/
theorem level_withLevel (s : Surroundings) (st : Settings) :
    (st.withLevel (asText? s.environment.level)).logging.level = level s st := by
  unfold level
  cases asText? s.environment.level <;> rfl

theorem run_of_unknown_level (h : Loads s st) (hl : ¬ IsLevel (level s st)) :
    run s program = refused s (LaunchFault.unknownLevel (level s st)).message := by
  rw [← level_withLevel] at hl ⊢
  unfold run
  rw [settings_of_loads h]
  simp only [bind, Except.bind, LoggingSettings.checked_of_not_isLevel hl]
  rfl

theorem run_of_refusal {message : String} (h : Refusal s message) :
    run s program = refused s message := by
  cases h with
  | unreadable hp hr => exact run_of_load_error (by simp [load_eq, hp, hr, Settings.ofRead])
  | unparsable hp hr ht => exact run_of_load_error (by simp [load_eq, hp, hr, Settings.ofRead, ht])
  | unknownLevel hs hl => exact run_of_unknown_level hs hl

theorem run_of_level (hsetup : SetsUp s) (program : Program) (h : Loads s st)
    (hl : IsLevel (level s st)) :
    ∃ logging place, LogPlace.ofOutput? s.files s.date st.logging.toOutput = some place ∧
      run s program = perform s program st.programs logging place := by
  rw [← level_withLevel] at hl
  obtain ⟨log, hlog⟩ := LoggingSettings.checked_of_isLevel hl
  obtain ⟨⟨filter, hfilter⟩, place, hplace⟩ := hsetup st log h hlog
  obtain ⟨logging, hinstall⟩ := Log.Logging.install_fresh hfilter
  have houtput : log.output = st.logging.toOutput := by
    rw [LoggingSettings.checked_output hlog, Settings.withLevel_toOutput]
  refine ⟨logging, place, houtput ▸ hplace, ?_⟩
  unfold run
  rw [settings_of_loads h]
  simp only [bind, Except.bind, hlog, pure, Except.pure, hplace, Option.isSome_some, hinstall,
    Settings.withLevel_programs]

/-! ## Running -/

/-- A run on the standard streams ends as the program does, and only a fault is reported. -/
theorem perform_ends (s : Surroundings) (program : Program) (st : Settings) (logging : Log.Logging)
    (place : LogPlace) :
    let l := perform s program st.programs logging place
    (result s program st = .ok () ∧ l.exit = 0 ∧ l.reports = []) ∨
      ∃ fault, result s program st = .error fault ∧ l.exit = 1 ∧
        l.reports = [faultLine fault.message] := by
  intro l
  have hresult : (program.run st.programs ⟨{}, ⟨[.data s.input]⟩⟩
      (logging.journal.note (.launched program.name))).result = result s program st :=
    (Script.run_journal _ _ _ _).1
  cases hr : result s program st with
  | ok u =>
    rw [hr] at hresult
    exact .inl ⟨rfl, by simp [l, perform, hresult], by simp [l, perform, hresult]⟩
  | error fault =>
    rw [hr] at hresult
    exact .inr ⟨fault, rfl, by simp [l, perform, hresult], by simp [l, perform, hresult]⟩

/-- All that a launch can come to. -/
theorem run_cases (hsetup : SetsUp s) (program : Program) :
    (∃ message, Refusal s message ∧ run s program = refused s message) ∨
      ∃ st, Loads s st ∧ IsLevel (level s st) ∧
        ((result s program st = .ok () ∧ (run s program).exit = 0 ∧ (run s program).reports = []) ∨
          ∃ fault, result s program st = .error fault ∧ (run s program).exit = 1 ∧
            (run s program).reports = [faultLine fault.message]) := by
  cases hload : load s with
  | error fault => exact .inl ⟨_, refusal_of_load_error hload, run_of_load_error hload⟩
  | ok st =>
    have hs := load_ok_iff.1 hload
    by_cases hl : IsLevel (level s st)
    · obtain ⟨logging, place, -, hrun⟩ := run_of_level hsetup program hs hl
      rw [hrun]
      exact .inr ⟨st, hs, hl, perform_ends s program st logging place⟩
    · exact .inl ⟨_, .unknownLevel hs hl, run_of_unknown_level hs hl⟩

theorem exit_eq_zero_iff (hsetup : SetsUp s) :
    (run s program).exit = 0 ↔
      ∃ st, Loads s st ∧ IsLevel (level s st) ∧ result s program st = .ok () := by
  rcases run_cases hsetup program with
    ⟨message, hm, hrun⟩ | ⟨st, hs, hl, ⟨hr, hexit, -⟩ | ⟨fault, hr, hexit, -⟩⟩
  · simp only [hrun, refused, one_ne_zero, false_iff]
    rintro ⟨st, hs, hl, -⟩
    exact hm.not_isLevel hs hl
  · exact ⟨fun _ => ⟨st, hs, hl, hr⟩, fun _ => hexit⟩
  · simp only [hexit, one_ne_zero, false_iff]
    rintro ⟨st', hs', -, hr'⟩
    rw [loads_unique hs' hs, hr] at hr'
    cases hr'

/-- The exit code and the report go together. -/
theorem exit_and_reports (hsetup : SetsUp s) (program : Program) :
    ((run s program).exit = 0 ∧ (run s program).reports = []) ∨
      (run s program).exit = 1 ∧
        ∃ message, Failure s program message ∧ (run s program).reports = [faultLine message] := by
  rcases run_cases hsetup program with
    ⟨message, hm, hrun⟩ | ⟨st, hs, hl, ⟨-, hexit, hreports⟩ | ⟨fault, hr, hexit, hreports⟩⟩
  · rw [hrun]
    exact .inr ⟨rfl, message, .refused hm, rfl⟩
  · exact .inl ⟨hexit, hreports⟩
  · exact .inr ⟨hexit, fault.message, .ended hs hl hr, hreports⟩

/-- With a filter that can be read and without a log file there is nothing that could keep logging from
being set up. -/
theorem setsUp_of_stream {base : Option Log.Filter} (h : Loads s st)
    (hfilter : Log.environmentFilter (asText? s.environment.filter) = .ok base)
    (houtput : st.logging.output ≠ .file) : SetsUp s := by
  intro st' log h' hlog
  obtain rfl : st = st' := loads_unique h h'
  have hstream : log.output = st.logging.toOutput := by
    rw [LoggingSettings.checked_output hlog, Settings.withLevel_toOutput]
  constructor
  · unfold Log.Settings.buildFilter
    rw [hfilter]
    cases log.filter with
    | none => exact ⟨_, rfl⟩
    | some text => exact ⟨_, rfl⟩
  · rw [hstream, LoggingSettings.toOutput]
    cases ho : st.logging.output with
    | stderr => exact ⟨.stderr, rfl⟩
    | stdout => exact ⟨.stdout, rfl⟩
    | file => exact absurd ho houtput

theorem refusal_of_not_ready (h : ¬ ∃ st, Loads s st ∧ IsLevel (level s st)) :
    ∃ message, Refusal s message := by
  cases hload : load s with
  | error fault => exact ⟨_, refusal_of_load_error hload⟩
  | ok st =>
    have hs := load_ok_iff.1 hload
    exact ⟨_, .unknownLevel hs fun hl => h ⟨st, hs, hl⟩⟩

/-- If logging can be set up, a launch ends with 0 exactly if the settings load, the level that counts is
one, and the program succeeds, and nothing is reported then. Otherwise it ends with 1 and reports why,
once. If the settings do not load or the level is none, nothing is printed, logged or read. The
level in the settings does not matter if the environment has one, and a settings file that cannot be
parsed is reported, with what the parser says about it, whatever the environment has. -/
theorem launch_ends_by_stage (s : Surroundings) (program : Program) (hsetup : SetsUp s) :
    let l := run s program
    (l.exit = 0 ↔ ∃ st, Loads s st ∧ IsLevel (level s st) ∧ result s program st = .ok ()) ∧
      (l.exit = 0 → l.reports = []) ∧
      (l.exit ≠ 0 →
        l.exit = 1 ∧ ∃ message, Failure s program message ∧ l.reports = ["Error: " ++ message]) ∧
      ((¬ ∃ st, Loads s st ∧ IsLevel (level s st)) →
        l.exit = 1 ∧ (∃ message, Refusal s message ∧ l.reports = ["Error: " ++ message]) ∧
          l.output = ByteArray.empty ∧ l.logLines = [] ∧ l.unread = s.input.length) ∧
      (∀ st text, Loads s st → asText? s.environment.level = some text → IsLevel text →
        (l.exit = 0 ↔ result s program st = .ok ())) ∧
      ∀ path text reason, settingsPath? s = some path → s.files.read path = .ok text →
        Settings.parse text = .error reason → ∀ value : Option ByteArray,
          let l' := run { s with environment := { s.environment with level := value } } program
          l'.exit = 1 ∧ l'.reports = ["Error: " ++
            (LaunchFault.unparsable (shownPath path) reason (s.tell text reason)).message] := by
  intro l
  refine ⟨exit_eq_zero_iff hsetup, fun hexit => ?_, fun hexit => ?_, fun hready => ?_,
    fun st text hs hvar htext => ?_, fun path text reason hp hr ht value => ?_⟩
  · rcases exit_and_reports hsetup program with ⟨-, hreports⟩ | ⟨hone, -⟩
    · exact hreports
    · rw [hone] at hexit
      cases hexit
  · rcases exit_and_reports hsetup program with ⟨hzero, -⟩ | hfailed
    · exact absurd hzero hexit
    · exact hfailed
  · obtain ⟨message, hm⟩ := refusal_of_not_ready hready
    have hrun : l = refused s message := run_of_refusal hm
    rw [hrun]
    exact ⟨rfl, ⟨message, hm, rfl⟩, rfl, rfl, rfl⟩
  · -- the level in the settings is not looked at
    have hlevel : level s st = text := by simp [level, hvar]
    rw [exit_eq_zero_iff hsetup]
    constructor
    · rintro ⟨st', hs', -, hr⟩
      rwa [loads_unique hs hs']
    · exact fun hr => ⟨st, hs, hlevel ▸ htext, hr⟩
  · -- neither the path of the settings file nor what it holds depends on the level
    have hm : Refusal { s with environment := { s.environment with level := value } }
        (LaunchFault.unparsable (shownPath path) reason (s.tell text reason)).message :=
      .unparsable hp hr ht
    intro l'
    have hrun : l' = refused _ _ := run_of_refusal hm
    rw [hrun]
    exact ⟨rfl, rfl⟩

/-- A settings file with a level that is none, and a level in the environment. -/
def overridden : Surroundings where
  files := { files := [([Files.bytes Settings.fileName], "logging.level = \"loud\"".toUTF8)] }
  environment := { level := some " debug".toUTF8 }
  date := ""
  tell := fun _ _ => ""

theorem loads_overridden : Loads overridden { logging := { level := "loud" } } := by
  apply load_ok_iff.1
  cbv

theorem launch_ends_by_stage_overridden :
    SetsUp overridden ∧ ¬ IsLevel "loud" ∧ (run overridden .counterClass).exit = 0 ∧
      (run overridden .counterClass).reports = [] := by
  have hsetup : SetsUp overridden := setsUp_of_stream loads_overridden rfl (by decide)
  have hloud : ¬ IsLevel "loud" := by
    unfold IsLevel
    decide
  obtain ⟨-, hreports, -, -, hoverride, -⟩ := launch_ends_by_stage overridden .counterClass hsetup
  have hexit : (run overridden .counterClass).exit = 0 :=
    (hoverride _ " debug" loads_overridden (by cbv) (by unfold IsLevel; cbv)).2 rfl
  exact ⟨hsetup, hloud, hexit, hreports hexit⟩

/-- Bytes that are the text of a level. -/
def NamesLevel (bytes : ByteArray) : Prop := ∃ text : String, text.toUTF8 = bytes ∧ IsLevel text

/-- A level in the environment that is no text counts as not set, so that it does not have to be a level
as one that is set would have to. -/
theorem level_without_text_not_checked :
    ¬ ∀ (s : Surroundings) (program : Program), SetsUp s →
      ((run s program).exit = 0 ↔
        ∃ st, Loads s st ∧ NamesLevel (s.environment.level.getD st.logging.level.toUTF8) ∧
          result s program st = .ok ()) := by
  intro h
  let s : Surroundings := { environment := { level := some ⟨#[0xFF]⟩ }, date := "", tell := fun _ _ => "" }
  have hs : Loads s {} := load_ok_iff.1 (by cbv)
  have hsetup : SetsUp s := setsUp_of_stream hs rfl (by decide)
  have hlevel : IsLevel (level s {}) := by
    unfold IsLevel
    cbv
  have hexit : (run s .counterClass).exit = 0 := (exit_eq_zero_iff hsetup).2 ⟨{}, hs, hlevel, rfl⟩
  obtain ⟨st, -, ⟨text, htext, -⟩, -⟩ := (h s .counterClass hsetup).1 hexit
  -- a text is never the single byte 0xFF
  have hbytes : text.toUTF8 = ⟨#[0xFF]⟩ := htext
  have hvalid : (⟨#[0xFF]⟩ : ByteArray).IsValidUTF8 := hbytes ▸ text.isValidUTF8
  exact absurd hvalid (by decide)

end Launch

end Builtins
