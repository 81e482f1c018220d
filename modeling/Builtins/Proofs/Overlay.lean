import Builtins.Proofs.Fields
import Mathlib

/-!
# Settings as an overlay on the defaults

What a settings file says is laid over the defaults, field by field. A document has no two entries under
one key, so the settings depend only on what it says about each field.

* `Settings.Field`: the fields of both sections; `Settings.Field.find?` is what a document says about
  one, `Settings.Field.shown` what settings have there.
* `Settings.ofEntries_eq_ok_iff`, `Settings.exists_ofEntries_iff`: which settings a document gives, and
  when it gives some.
* `Settings.ofEntries_known`: entries that mean nothing can be left out.
* `Settings.parse_overlays_defaults`: all of it for the text of a settings file.
-/
namespace Builtins

open Toml (Entries Value)

/-! ## Both sections -/

/-- The entries of the table under a key. -/
def Toml.Entries.tableAt (es : Entries) (key : String) : Entries :=
  match es.lookup key with
  | some (.table _ sub) => sub
  | _ => []

namespace Settings

inductive Section where
  | logging
  | programs
  deriving DecidableEq, Repr

namespace Section

def key : Section → String
  | logging => "logging"
  | programs => "programs"

@[reducible] def Content : Section → Type
  | logging => LoggingSettings
  | programs => Program.Parameters

def get : (c : Section) → Settings → c.Content
  | logging, s => s.logging
  | programs, s => s.programs

def put : (c : Section) → c.Content → Settings → Settings
  | logging, x, s => { s with logging := x }
  | programs, x, s => { s with programs := x }

def ofEntries : (c : Section) → Entries → Except SettingsFault c.Content
  | logging, es => LoggingSettings.ofEntries es
  | programs, es => Program.Parameters.ofEntries es

def read : (c : Section) → Value → Except SettingsFault c.Content
  | logging, v => do LoggingSettings.ofEntries (← v.asSection "struct LoggingConfig" LoggingSettings.keys)
  | programs, v =>
    do Program.Parameters.ofEntries (← v.asSection "struct ProgramConfig" Program.Parameters.keys)

def keys : Section → List String
  | logging => LoggingSettings.keys
  | programs => Program.Parameters.keys

theorem ofEntries_filter (c : Section) (es : Entries) :
    c.ofEntries (es.filter (·.1 ∈ c.keys)) = c.ofEntries es := by
  cases c with
  | logging => exact LoggingSettings.reader.fold_filter LoggingSettings.Field.key_mem es {}
  | programs => exact Program.Parameters.reader.fold_filter Program.Parameters.Field.key_mem es {}

end Section

theorem set_section (s : Settings) (c : Section) (v : Value) : s.set (c.key, v) = (c.read v).map (c.put · s) := by
  cases c with
  | logging =>
    change (v.asSection _ _ >>= fun es => LoggingSettings.ofEntries es >>= fun x =>
      pure { s with logging := x }) = (v.asSection _ _ >>= LoggingSettings.ofEntries).map _
    cases v.asSection "struct LoggingConfig" LoggingSettings.keys <;> rfl
  | programs =>
    change (v.asSection _ _ >>= fun es => Program.Parameters.ofEntries es >>= fun x =>
      pure { s with programs := x }) = (v.asSection _ _ >>= Program.Parameters.ofEntries).map _
    cases v.asSection "struct ProgramConfig" Program.Parameters.keys <;> rfl

theorem set_other (s : Settings) {key : String} (v : Value) (h : ∀ c : Section, c.key ≠ key) :
    s.set (key, v) = .ok s := by
  unfold set
  split
  · next heq => exact absurd (Prod.mk.inj heq).1.symm (h .logging)
  · next heq => exact absurd (Prod.mk.inj heq).1.symm (h .programs)
  · rfl

/-- The settings, section by section. -/
def reader : FieldReader Settings Section Section.Content where
  name := Section.key
  get := Section.get
  put := Section.put
  read := Section.read
  step := set
  name_injective := by
    intro c c' h
    cases c <;> cases c' <;> first | rfl | simp [Section.key] at h
  ext := by
    intro s t h
    cases s
    cases t
    congr
    exacts [h .logging, h .programs]
  get_put c x s := by cases c <;> rfl
  get_put_of_ne {c c'} x s h := by cases c <;> cases c' <;> first | rfl | exact absurd rfl h
  step_name := set_section
  step_other := set_other

/-- Sections are tables, and in the one on logging the format and the output are none. -/
structure Plain (es : Entries) : Prop where
  sections : ∀ e ∈ es, e.1 = "logging" ∨ e.1 = "programs" → e.2.isTable = true
  choices : ∀ e ∈ es.tableAt "logging", e.1 = "format" ∨ e.1 = "output" → e.2.isTable = false

instance (es : Entries) : Decidable (Plain es) :=
  decidable_of_iff (_ ∧ _) ⟨fun h => Plain.mk h.1 h.2, fun h => ⟨h.sections, h.choices⟩⟩

inductive Field where
  | logging (f : LoggingSettings.Field)
  | programs (f : Program.Parameters.Field)
  deriving DecidableEq, Repr

namespace Field

/-- What a document says about a field. -/
def find? : Field → Entries → Option Value
  | logging f, es => (es.tableAt "logging").lookup f.key
  | programs f, es => (es.tableAt "programs").lookup f.key

/-- What a document would say about a field to set it as it is. -/
def shown : Field → Settings → Option Value
  | logging f, s => f.valueOf (f.get s.logging)
  | programs f, s => some (.integer (f.get s.programs).toInt)

/-- The values of the right type. -/
def Accepts : Field → Value → Prop
  | logging f, v => f.Accepts v
  | programs _, v => ∃ z, v = .integer z

end Field

variable {es es' : Entries} {st : Settings}

theorem sound_tableAt (hes : es.Sound) (key : String) : (es.tableAt key).Sound := by
  unfold Toml.Entries.tableAt
  split
  · next origin sub hsub => exact Toml.Entries.Sound.of_table (hes.lookup hsub)
  · exact Toml.Entries.sound_nil

theorem Plain.table (hplain : Plain es) {c : Section} {v : Value} (hv : (c.key, v) ∈ es) :
    ∃ origin sub, v = .table origin sub := by
  have htable : v.isTable = true := hplain.sections _ hv (by cases c <;> simp [Section.key])
  cases v with
  | table origin sub => exact ⟨origin, sub, rfl⟩
  | _ => cases htable

/-- A section that is not there is read as an empty one. -/
theorem overlaid_section (hplain : Plain es) (c : Section) :
    reader.overlaid es {} c = c.ofEntries (es.tableAt c.key) := by
  have hname : reader.name c = c.key := rfl
  unfold FieldReader.overlaid Toml.Entries.tableAt
  rw [hname]
  cases hv : es.lookup c.key with
  -- the defaults of the settings have the defaults of each section in them
  | none => cases c <;> rfl
  | some v =>
    obtain ⟨origin, sub, rfl⟩ := hplain.table (Toml.Entries.mem_of_lookup hv)
    cases c <;> rfl

theorem ofEntries_eq_ok_iff_sections (hes : es.Sound) (hplain : Plain es) :
    ofEntries es = .ok st ↔ ∀ c : Section, c.ofEntries (es.tableAt c.key) = .ok (c.get st) := by
  refine (reader.fold_eq_ok_iff hes.keys).trans (forall_congr' fun c => ?_)
  rw [overlaid_section hplain c]
  rfl

theorem proper_logging (hplain : Plain es) (f : LoggingSettings.Field) (v : Value)
    (hv : (es.tableAt "logging").lookup f.key = some v) : f.Proper v := by
  have hchoice := hplain.choices _ (Toml.Entries.mem_of_lookup hv)
  cases f with
  | format => exact hchoice (.inl rfl)
  | output => exact hchoice (.inr rfl)
  | _ => trivial

theorem proper_programs (hes : es.Sound) (f : Program.Parameters.Field) (v : Value)
    (hv : (es.tableAt "programs").lookup f.key = some v) : v.Sound :=
  (sound_tableAt hes "programs").lookup hv

/-- The settings in the end are those with all fields as the document has them or as they were. -/
theorem ofEntries_eq_ok_iff (hes : es.Sound) (hplain : Plain es) :
    ofEntries es = .ok st ↔ ∀ f : Field, f.shown st = (f.find? es).or (f.shown {}) := by
  have hlogging : LoggingSettings.ofEntries (es.tableAt "logging") = .ok st.logging ↔
      ∀ f, (Field.logging f).shown st = ((Field.logging f).find? es).or ((Field.logging f).shown {}) :=
    LoggingSettings.view.fold_eq_ok_iff (sound_tableAt hes _).keys (proper_logging hplain)
  have hprograms : Program.Parameters.ofEntries (es.tableAt "programs") = .ok st.programs ↔
      ∀ f, (Field.programs f).shown st = ((Field.programs f).find? es).or ((Field.programs f).shown {}) :=
    Program.Parameters.view.fold_eq_ok_iff (sound_tableAt hes _).keys (proper_programs hes)
  rw [ofEntries_eq_ok_iff_sections hes hplain]
  constructor
  · intro h f
    cases f with
    | logging f => exact hlogging.1 (h .logging) f
    | programs f => exact hprograms.1 (h .programs) f
  · intro h c
    cases c with
    | logging => exact hlogging.2 fun f => h (.logging f)
    | programs => exact hprograms.2 fun f => h (.programs f)

/-- There are settings exactly if the document has values of the right types. -/
theorem exists_ofEntries_iff (hes : es.Sound) (hplain : Plain es) :
    (∃ st, ofEntries es = .ok st) ↔ ∀ (f : Field) (v : Value), f.find? es = some v → f.Accepts v := by
  have hlogging : (∃ x, LoggingSettings.ofEntries (es.tableAt "logging") = .ok x) ↔
      ∀ f v, (Field.logging f).find? es = some v → (Field.logging f).Accepts v :=
    LoggingSettings.view.exists_fold_iff (sound_tableAt hes _).keys (proper_logging hplain)
  have hprograms : (∃ x, Program.Parameters.ofEntries (es.tableAt "programs") = .ok x) ↔
      ∀ f v, (Field.programs f).find? es = some v → (Field.programs f).Accepts v :=
    Program.Parameters.view.exists_fold_iff (sound_tableAt hes _).keys (proper_programs hes)
  constructor
  · rintro ⟨st, hst⟩ f v hv
    have hread := (ofEntries_eq_ok_iff_sections hes hplain).1 hst
    cases f with
    | logging f => exact hlogging.1 ⟨_, hread .logging⟩ f v hv
    | programs f => exact hprograms.1 ⟨_, hread .programs⟩ f v hv
  · intro h
    refine reader.exists_fold hes.keys fun c => ?_
    rw [overlaid_section hplain c]
    cases c with
    | logging => exact hlogging.2 fun f => h (.logging f)
    | programs => exact hprograms.2 fun f => h (.programs f)

/-! ## Entries that mean nothing -/

/-- The entries that say something about the settings, in their order. How a section came about is
left out. -/
def known (es : Entries) : Entries :=
  es.filterMap fun
    | ("logging", .table _ sub) =>
      some ("logging", .table .header (sub.filter (·.1 ∈ LoggingSettings.keys)))
    | ("programs", .table _ sub) =>
      some ("programs", .table .header (sub.filter (·.1 ∈ Program.Parameters.keys)))
    | _ => none

theorem known_cons_section (c : Section) (origin : Toml.Origin) (sub : Entries) :
    known ((c.key, .table origin sub) :: es) =
      (c.key, .table .header (sub.filter (·.1 ∈ c.keys))) :: known es := by
  cases c <;> rfl

theorem known_cons_other {key : String} {v : Value} (h : ∀ c : Section, c.key ≠ key) :
    known ((key, v) :: es) = known es := by
  refine List.filterMap_cons_none ?_
  split
  · next heq => exact absurd (Prod.mk.inj heq).1.symm (h .logging)
  · next heq => exact absurd (Prod.mk.inj heq).1.symm (h .programs)
  · rfl

theorem set_table (s : Settings) (c : Section) (origin : Toml.Origin) (sub : Entries) :
    s.set (c.key, .table origin sub) = (c.ofEntries sub).map (c.put · s) := by
  rw [set_section]
  cases c <;> rfl

/-- Leaving out the other entries changes nothing, not even which fault is met first. -/
theorem fold_known (htables : ∀ (c : Section) (v : Value), (c.key, v) ∈ es → ∃ origin sub, v = .table origin sub)
    (s : Settings) : (known es).foldlM set s = es.foldlM set s := by
  induction es generalizing s with
  | nil => rfl
  | cons e es ih =>
    have hrest : ∀ s, (known es).foldlM set s = es.foldlM set s :=
      ih fun c v hv => htables c v (List.mem_cons_of_mem _ hv)
    obtain ⟨key, v⟩ := e
    by_cases hknown : ∃ c : Section, c.key = key
    · obtain ⟨c, rfl⟩ := hknown
      obtain ⟨origin, sub, rfl⟩ := htables c v List.mem_cons_self
      rw [known_cons_section, List.foldlM_cons, List.foldlM_cons, set_table, set_table, c.ofEntries_filter]
      exact congrArg (_ >>= ·) (funext hrest)
    · have hother : ∀ c : Section, c.key ≠ key := not_exists.1 hknown
      rw [known_cons_other hother, hrest, List.foldlM_cons, set_other s v hother]
      rfl

theorem ofEntries_known (hplain : Plain es) : ofEntries (known es) = ofEntries es :=
  fold_known (fun _ _ => hplain.table) {}

/-! ## Settings files -/

theorem parse_of_document {text : String} (h : Toml.document text = some es) : parse text = ofEntries es := by
  rw [parse, h]

/-- The settings are a function of what the document says about the fields. -/
theorem toOption_ofEntries_congr (hes : es.Sound) (hplain : Plain es) (hes' : es'.Sound)
    (hplain' : Plain es') (h : ∀ f : Field, f.find? es' = f.find? es) :
    (ofEntries es').toOption = (ofEntries es).toOption := by
  have hsome : ∀ {x : Except SettingsFault Settings} {st}, x.toOption = some st ↔ x = .ok st := by
    intro x st
    cases x <;> simp [Except.toOption]
  refine Option.ext fun st => ?_
  rw [hsome, hsome, ofEntries_eq_ok_iff hes' hplain', ofEntries_eq_ok_iff hes hplain]
  exact forall_congr' fun f => by rw [h f]

/-- A document that differs only in what it says about one field, and says something of the right type
there, gives settings that differ only in this field. -/
theorem ofEntries_set_field (hes : es.Sound) (hplain : Plain es) (hes' : es'.Sound)
    (hplain' : Plain es') {f : Field} {v : Value} (hv : f.Accepts v) (hf : f.find? es' = some v)
    (hothers : ∀ g ≠ f, g.find? es' = g.find? es) (hst : ofEntries es = .ok st) :
    ∃ st', ofEntries es' = .ok st' ∧ f.shown st' = some v ∧ ∀ g ≠ f, g.shown st' = g.shown st := by
  have haccepts : ∀ (g : Field) (w : Value), g.find? es' = some w → g.Accepts w := by
    intro g w hw
    by_cases hg : g = f
    · subst hg
      obtain rfl : v = w := Option.some.inj (hf.symm.trans hw)
      exact hv
    · exact (exists_ofEntries_iff hes hplain).1 ⟨st, hst⟩ g w (hothers g hg ▸ hw)
  obtain ⟨st', hst'⟩ := (exists_ofEntries_iff hes' hplain').2 haccepts
  have hshown := (ofEntries_eq_ok_iff hes hplain).1 hst
  have hshown' := (ofEntries_eq_ok_iff hes' hplain').1 hst'
  refine ⟨st', hst', ?_, fun g hg => ?_⟩
  · rw [hshown' f, hf, Option.some_or]
  · rw [hshown' g, hothers g hg, ← hshown g]

/-- Reading a settings file lays what it says over the defaults. It succeeds exactly if every value
under a known key is of the right type, and then each field is that value or, without one, the default.
Neither the order of the entries nor entries under other keys make a difference, and setting a field
changes this field only. -/
theorem parse_overlays_defaults {text : String} (hdoc : Toml.document text = some es) (hplain : Plain es) :
    ((∃ st, parse text = .ok st) ↔ ∀ (f : Field) (v : Value), f.find? es = some v → f.Accepts v) ∧
    (∀ st, parse text = .ok st → ∀ f : Field, f.shown st = (f.find? es).or (f.shown {})) ∧
    ∀ text' es', Toml.document text' = some es' → Plain es' →
      ((∀ f : Field, f.find? es' = f.find? es) → (parse text').toOption = (parse text).toOption) ∧
      (known es' = known es → parse text' = parse text) ∧
      ∀ (f : Field) (v : Value), f.Accepts v → f.find? es' = some v →
        (∀ g ≠ f, g.find? es' = g.find? es) → ∀ st, parse text = .ok st →
          ∃ st', parse text' = .ok st' ∧ f.shown st' = some v ∧ ∀ g ≠ f, g.shown st' = g.shown st := by
  have hes : es.Sound := Toml.sound_document hdoc
  rw [parse_of_document hdoc]
  refine ⟨exists_ofEntries_iff hes hplain, fun st => (ofEntries_eq_ok_iff hes hplain).1, ?_⟩
  intro text' es' hdoc' hplain'
  have hes' : es'.Sound := Toml.sound_document hdoc'
  rw [parse_of_document hdoc']
  refine ⟨toOption_ofEntries_congr hes hplain hes' hplain', fun hknown => ?_, ?_⟩
  · rw [← ofEntries_known hplain', hknown, ofEntries_known hplain]
  · intro f v hv hf hothers st hst
    exact ofEntries_set_field hes hplain hes' hplain' hv hf hothers hst

/-- A settings file with entries that mean nothing. -/
def scattered : String :=
  "x = 1\n[programs]\ncount_to = 3\n[logging]\nfilter = \"debug\"\ny = \x7b z = true \x7d\n" ++
  "format = \"json\"\n[other]\nlevel = 5\n"

def scatteredEntries : Entries :=
  [("x", .integer 1),
   ("programs", .table .header [("count_to", .integer 3)]),
   ("logging", .table .header [("filter", .string "debug"),
     ("y", .table .inline [("z", .boolean true)]), ("format", .string "json")]),
   ("other", .table .header [("level", .integer 5)])]

/-- The same settings in another order, with nothing else. -/
def terse : String := "logging = \x7b format = \"json\", filter = \"debug\" \x7d\nprograms.count_to = 3\n"

def terseEntries : Entries :=
  [("logging", .table .inline [("format", .string "json"), ("filter", .string "debug")]),
   ("programs", .table .dotted [("count_to", .integer 3)])]

/-- One more field set. -/
def extended : String := terse ++ "programs.fib_index = 9\n"

def extendedEntries : Entries :=
  [("logging", .table .inline [("format", .string "json"), ("filter", .string "debug")]),
   ("programs", .table .dotted [("count_to", .integer 3), ("fib_index", .integer 9)])]

theorem parse_overlays_defaults_scattered :
    Toml.document scattered = some scatteredEntries ∧ Plain scatteredEntries ∧
    Toml.document terse = some terseEntries ∧ Plain terseEntries ∧
    Toml.document extended = some extendedEntries ∧ Plain extendedEntries ∧
    ∃ st, parse scattered = .ok st ∧
      (∀ f : Field, f.shown st = (f.find? scatteredEntries).or (f.shown {})) ∧
      (parse terse).toOption = (parse scattered).toOption ∧
      ∃ st', parse extended = .ok st' ∧ (Field.programs .fibIndex).shown st' = some (.integer 9) ∧
        ∀ g ≠ Field.programs .fibIndex, g.shown st' = g.shown st := by
  have hdoc : Toml.document scattered = some scatteredEntries := by cbv
  have hdoc' : Toml.document terse = some terseEntries := by cbv
  have hdoc'' : Toml.document extended = some extendedEntries := by cbv
  have hplain : Plain scatteredEntries := by decide
  have hplain' : Plain terseEntries := by decide
  have hplain'' : Plain extendedEntries := by decide
  have hfind : ∀ f : Field, f.find? terseEntries = f.find? scatteredEntries := by
    rintro (f | f) <;> cases f <;> rfl
  obtain ⟨hiff, hshown, hothers⟩ := parse_overlays_defaults hdoc hplain
  obtain ⟨st, hst⟩ : ∃ st, parse scattered = .ok st := by
    refine hiff.2 ?_
    rintro (f | f) v hv <;> cases f <;> cases hv
    exacts [.inr (.inr rfl), ⟨_, rfl⟩, ⟨_, rfl⟩]
  refine ⟨hdoc, hplain, hdoc', hplain', hdoc'', hplain'', st, hst, hshown st hst,
    (hothers _ _ hdoc' hplain').1 hfind, ?_⟩
  refine (hothers _ _ hdoc'' hplain'').2.2 (.programs .fibIndex) (.integer 9) ⟨9, rfl⟩ rfl ?_ st hst
  rintro (f | f) hf <;> cases f <;> first | rfl | exact absurd rfl hf

end Settings

end Builtins
