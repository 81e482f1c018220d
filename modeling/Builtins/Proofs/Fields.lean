import Builtins.Proofs.Documents
import Builtins.Settings
import Mathlib

/-!
# Sections, field by field

A section of a settings file is read entry after entry, into a record that starts as the defaults.
Under distinct keys the order of the entries does not matter: every field ends up as the value under its
key or, without one, as it was.

* `FieldReader`: reading a record from entries, where each field has a key of its own.
* `FieldReader.fold_cons_cases`: what one entry does, whichever it is; from it
  `FieldReader.fold_eq_ok_iff` and `FieldReader.exists_fold`: what the record is in the end, and when
  there is one.
* `FieldReader.fold_filter`: entries under other keys can be left out.
* `FieldReader.View`: fields as the values that a document has for them, with the same statements.
* `LoggingSettings.reader`, `Program.Parameters.reader`: the two sections.
-/
namespace Builtins

open Toml (Entries Value)

/-! ## Reading fields -/

/-- A way of reading a record of type `σ` from entries, one after the other. Each field has a key of
its own; a value under that key is read into this field and no other, and an entry under any other key
is passed over. -/
structure FieldReader (σ κ : Type) (φ : κ → Type) where
  name : κ → String
  get : (k : κ) → σ → φ k
  put : (k : κ) → φ k → σ → σ
  read : (k : κ) → Value → Except SettingsFault (φ k)
  step : σ → String × Value → Except SettingsFault σ
  name_injective : Function.Injective name
  ext : ∀ {s t : σ}, (∀ k, get k s = get k t) → s = t
  get_put : ∀ (k : κ) (x : φ k) (s : σ), get k (put k x s) = x
  get_put_of_ne : ∀ {j k : κ} (x : φ k) (s : σ), j ≠ k → get j (put k x s) = get j s
  step_name : ∀ (s : σ) (k : κ) (v : Value), step s (name k, v) = (read k v).map (put k · s)
  step_other : ∀ (s : σ) {key : String} (v : Value), (∀ k, name k ≠ key) → step s (key, v) = .ok s

namespace FieldReader

variable {σ κ : Type} {φ : κ → Type} (r : FieldReader σ κ φ) {es : Entries} {s t : σ}

/-- What a field should be: the value under its key, or else what it was. -/
def overlaid (es : Entries) (s : σ) (k : κ) : Except SettingsFault (φ k) :=
  match es.lookup (r.name k) with
  | none => .ok (r.get k s)
  | some v => r.read k v

theorem overlaid_cons_other {key : String} {v : Value} (h : ∀ k, r.name k ≠ key) (k : κ) :
    r.overlaid ((key, v) :: es) s k = r.overlaid es s k := by
  have hkey : (r.name k == key) = false := beq_eq_false_iff_ne.2 (h k)
  simp [overlaid, List.lookup_cons, hkey]

theorem overlaid_cons_self (k : κ) (v : Value) : r.overlaid ((r.name k, v) :: es) s k = r.read k v := by
  simp [overlaid]

/-- An entry that is read does the same to the rest as its value in the record. -/
theorem overlaid_cons_name {k : κ} {v : Value} {x : φ k} (hread : r.read k v = .ok x)
    (hkey : r.name k ∉ es.map Prod.fst) (j : κ) :
    r.overlaid ((r.name k, v) :: es) s j = r.overlaid es (r.put k x s) j := by
  by_cases hj : j = k
  · subst hj
    -- the key does not come again, so nothing later replaces the value
    have hnone : es.lookup (r.name j) = none :=
      List.lookup_eq_none_iff.2 fun e he => by
        simpa using fun heq : r.name j = e.1 => hkey (heq ▸ List.mem_map_of_mem he)
    rw [overlaid_cons_self, hread, overlaid, hnone, r.get_put]
  · have hname : (r.name j == r.name k) = false :=
      beq_eq_false_iff_ne.2 fun h => hj (r.name_injective h)
    simp [overlaid, List.lookup_cons, hname, r.get_put_of_ne x s hj]

/-- The first entry either is refused, and then its field cannot be read, or leads to a record from
which the rest gives the same fields. -/
theorem fold_cons_cases {e : String × Value} (hkey : e.1 ∉ es.map Prod.fst) (s : σ) :
    (∃ s', (e :: es).foldlM r.step s = es.foldlM r.step s' ∧
      ∀ k, r.overlaid (e :: es) s k = r.overlaid es s' k) ∨
    ∃ k fault, (e :: es).foldlM r.step s = .error fault ∧ r.overlaid (e :: es) s k = .error fault := by
  obtain ⟨key, v⟩ := e
  by_cases hknown : ∃ k, r.name k = key
  · obtain ⟨k, rfl⟩ := hknown
    cases hread : r.read k v with
    | ok x =>
      refine .inl ⟨r.put k x s, ?_, r.overlaid_cons_name hread hkey⟩
      rw [List.foldlM_cons, r.step_name, hread]
      rfl
    | error fault =>
      refine .inr ⟨k, fault, ?_, (r.overlaid_cons_self k v).trans hread⟩
      rw [List.foldlM_cons, r.step_name, hread]
      rfl
  · have hother : ∀ k, r.name k ≠ key := not_exists.1 hknown
    refine .inl ⟨s, ?_, r.overlaid_cons_other hother⟩
    rw [List.foldlM_cons, r.step_other s v hother]
    rfl

/-- Under distinct keys the record in the end is the one with the fields as they should be. -/
theorem fold_eq_ok_iff (hkeys : (es.map Prod.fst).Nodup) :
    es.foldlM r.step s = .ok t ↔ ∀ k, r.overlaid es s k = .ok (r.get k t) := by
  induction es generalizing s with
  | nil =>
    constructor
    · intro h k
      obtain rfl : s = t := Except.ok.inj h
      rfl
    · intro h
      exact congrArg Except.ok (r.ext fun k => Except.ok.inj (h k))
  | cons e es ih =>
    obtain ⟨hkey, hkeys⟩ := List.nodup_cons.1 hkeys
    rcases r.fold_cons_cases hkey s with ⟨s', hfold, hover⟩ | ⟨k, fault, hfold, hover⟩
    · rw [hfold, ih hkeys]
      exact forall_congr' fun k => by rw [hover k]
    · constructor
      · intro h
        cases hfold.symm.trans h
      · intro h
        cases hover.symm.trans (h k)

/-- There is such a record if every field can be read. -/
theorem exists_fold (hkeys : (es.map Prod.fst).Nodup) (h : ∀ k, ∃ x, r.overlaid es s k = .ok x) :
    ∃ t, es.foldlM r.step s = .ok t := by
  induction es generalizing s with
  | nil => exact ⟨s, rfl⟩
  | cons e es ih =>
    obtain ⟨hkey, hkeys⟩ := List.nodup_cons.1 hkeys
    rcases r.fold_cons_cases hkey s with ⟨s', hfold, hover⟩ | ⟨k, fault, -, hover⟩
    · rw [hfold]
      exact ih hkeys fun k => hover k ▸ h k
    · obtain ⟨x, hx⟩ := h k
      cases hover.symm.trans hx

/-- Entries under keys of no field can be left out. -/
theorem fold_filter {keys : List String} (hname : ∀ k, r.name k ∈ keys) (es : Entries) (s : σ) :
    (es.filter (·.1 ∈ keys)).foldlM r.step s = es.foldlM r.step s := by
  induction es generalizing s with
  | nil => rfl
  | cons e es ih =>
    by_cases hkey : e.1 ∈ keys
    · rw [List.filter_cons_of_pos (by simpa using hkey), List.foldlM_cons, List.foldlM_cons]
      exact congrArg (r.step s e >>= ·) (funext ih)
    · have hstep : r.step s e = .ok s := r.step_other s e.2 fun k hk => hkey (hk ▸ hname k)
      rw [List.filter_cons_of_neg (by simpa using hkey), List.foldlM_cons, hstep, ih]
      rfl

/-- The fields of a record as the values that a document has for them, and the values that each field
takes. Reading is the inverse of showing on the proper values. -/
structure View (r : FieldReader σ κ φ) where
  shown : (k : κ) → φ k → Option Value
  Accepts : κ → Value → Prop
  Proper : κ → Value → Prop
  shown_injective : ∀ k, Function.Injective (shown k)
  read_eq_ok_iff : ∀ {k : κ} {v : Value} {x : φ k}, Proper k v → (r.read k v = .ok x ↔ shown k x = some v)
  accepts_iff : ∀ {k : κ} {v : Value}, Proper k v → (Accepts k v ↔ ∃ x, shown k x = some v)

namespace View

variable {r} (w : r.View)

theorem overlaid_eq_ok_iff {k : κ} {x : φ k} (hproper : ∀ v, es.lookup (r.name k) = some v → w.Proper k v) :
    r.overlaid es s k = .ok x ↔ w.shown k x = (es.lookup (r.name k)).or (w.shown k (r.get k s)) := by
  unfold overlaid
  cases hv : es.lookup (r.name k) with
  | none =>
    rw [Option.none_or, (w.shown_injective k).eq_iff, Except.ok.injEq]
    exact eq_comm
  | some v => exact w.read_eq_ok_iff (hproper v hv)

theorem fold_eq_ok_iff (hkeys : (es.map Prod.fst).Nodup)
    (hproper : ∀ k v, es.lookup (r.name k) = some v → w.Proper k v) :
    es.foldlM r.step s = .ok t ↔
      ∀ k, w.shown k (r.get k t) = (es.lookup (r.name k)).or (w.shown k (r.get k s)) := by
  rw [r.fold_eq_ok_iff hkeys]
  exact forall_congr' fun k => w.overlaid_eq_ok_iff (hproper k)

theorem exists_fold_iff (hkeys : (es.map Prod.fst).Nodup)
    (hproper : ∀ k v, es.lookup (r.name k) = some v → w.Proper k v) :
    (∃ t, es.foldlM r.step s = .ok t) ↔ ∀ k v, es.lookup (r.name k) = some v → w.Accepts k v := by
  constructor
  · rintro ⟨t, ht⟩ k v hv
    have hshown := (w.fold_eq_ok_iff hkeys hproper).1 ht k
    rw [hv, Option.some_or] at hshown
    exact (w.accepts_iff (hproper k v hv)).2 ⟨_, hshown⟩
  · intro h
    refine r.exists_fold hkeys fun k => ?_
    cases hv : es.lookup (r.name k) with
    | none => exact ⟨r.get k s, by rw [overlaid, hv]⟩
    | some v =>
      obtain ⟨x, hx⟩ := (w.accepts_iff (hproper k v hv)).1 (h k v hv)
      exact ⟨x, by rw [overlaid, hv]; exact (w.read_eq_ok_iff (hproper k v hv)).2 hx⟩

end View

end FieldReader

/-! ## The values of the fields -/

/-- The name of a format in a settings file. -/
def Log.Format.name : Log.Format → String
  | .pretty => "pretty"
  | .compact => "compact"
  | .json => "json"

/-- The name of a destination in a settings file. -/
def Destination.name : Destination → String
  | .stderr => "stderr"
  | .stdout => "stdout"
  | .file => "file"

namespace Toml.Value

def isTable : Value → Bool
  | table .. => true
  | _ => false

theorem asText_eq_ok_iff {expected s : String} {v : Value} :
    v.asText expected = .ok s ↔ some (.string s) = some v := by
  cases v <;> simp [asText, eq_comm]

theorem asBool_eq_ok_iff {b : Bool} {v : Value} : v.asBool = .ok b ↔ some (.boolean b) = some v := by
  cases v <;> simp [asBool, eq_comm]

/-- An integer of a document is a word, so reading it loses nothing. -/
theorem asWord_eq_ok_iff {w : Word} {v : Value} (hv : v.Sound) :
    v.asWord = .ok w ↔ some (.integer w.toInt) = some v := by
  cases hv with
  | @integer z hz =>
    have hback : (Int64.ofInt z).toInt = z := Int64.toInt_ofInt_of_le hz.1 hz.2
    constructor
    · intro h
      rw [← Except.ok.inj h, hback]
    · intro h
      have hz : w.toInt = z := by simpa using h
      rw [← hz, asWord, Int64.ofInt_toInt]
  | _ => simp [asWord]

/-- A choice that is not written as a table is written as its name. -/
theorem asChoice_eq_ok_iff {α : Type} {choices : List (String × α)} {name : α → String}
    (hname : ∀ c ∈ choices, name c.2 = c.1) (hlookup : ∀ a, choices.lookup (name a) = some a) {a : α}
    {v : Value} (hv : v.isTable = false) :
    v.asChoice choices = .ok a ↔ some (.string (name a)) = some v := by
  cases v with
  | string s =>
    have hchoose : choose choices s = .ok a ↔ choices.lookup s = some a := by
      cases h : choices.lookup s <;> simp [choose, h]
    rw [asChoice, hchoose, Option.some.injEq, string.injEq]
    constructor
    · intro h
      obtain ⟨before, after, heq, -⟩ := List.lookup_eq_some_iff.1 h
      exact hname (s, a) (heq ▸ by simp)
    · rintro rfl
      exact hlookup a
  | table origin es => cases hv
  | _ => simp [asChoice]

end Toml.Value

/-! ## The section on logging -/

namespace LoggingSettings

inductive Field where
  | level
  | format
  | output
  | directory
  | stem
  | spanEvents
  | filter
  deriving DecidableEq, Repr

namespace Field

/-- The key of a field. -/
def key : Field → String
  | level => "level"
  | format => "format"
  | output => "output"
  | directory => "directory"
  | stem => "prefix"
  | spanEvents => "span_events"
  | filter => "filter"

/-- What a field holds. -/
@[reducible] def Content : Field → Type
  | level => String
  | format => Log.Format
  | output => Destination
  | directory => String
  | stem => String
  | spanEvents => Bool
  | filter => Option String

def get : (f : Field) → LoggingSettings → f.Content
  | level, s => s.level
  | format, s => s.format
  | output, s => s.output
  | directory, s => s.directory
  | stem, s => s.stem
  | spanEvents, s => s.spanEvents
  | filter, s => s.filter

def put : (f : Field) → f.Content → LoggingSettings → LoggingSettings
  | level, x, s => { s with level := x }
  | format, x, s => { s with format := x }
  | output, x, s => { s with output := x }
  | directory, x, s => { s with directory := x }
  | stem, x, s => { s with stem := x }
  | spanEvents, x, s => { s with spanEvents := x }
  | filter, x, s => { s with filter := x }

def read : (f : Field) → Value → Except SettingsFault f.Content
  | level, v => v.asText "a string"
  | format, v => v.asChoice formats
  | output, v => v.asChoice destinations
  | directory, v => v.asText "path string"
  | stem, v => v.asText "a string"
  | spanEvents, v => v.asBool
  | filter, v => (v.asText "a string").map some

/-- The value that a document has for a content. A filter that is not set has none. -/
def valueOf : (f : Field) → f.Content → Option Value
  | level, s => some (.string s)
  | format, choice => some (.string choice.name)
  | output, choice => some (.string choice.name)
  | directory, s => some (.string s)
  | stem, s => some (.string s)
  | spanEvents, b => some (.boolean b)
  | filter, text => text.map .string

/-- The values of the right type. -/
def Accepts : Field → Value → Prop
  | level, v => ∃ s, v = .string s
  | format, v => v = .string "pretty" ∨ v = .string "compact" ∨ v = .string "json"
  | output, v => v = .string "stderr" ∨ v = .string "stdout" ∨ v = .string "file"
  | directory, v => ∃ s, v = .string s
  | stem, v => ∃ s, v = .string s
  | spanEvents, v => ∃ b, v = .boolean b
  | filter, v => ∃ s, v = .string s

/-- A choice can be written as a table too, which no content is shown as. -/
def Proper : Field → Value → Prop
  | format, v => v.isTable = false
  | output, v => v.isTable = false
  | _, _ => True

theorem key_mem (f : Field) : f.key ∈ keys := by cases f <;> decide

end Field

theorem set_field (s : LoggingSettings) (f : Field) (v : Value) :
    s.set (f.key, v) = (f.read v).map (f.put · s) := by
  cases f with
  | filter =>
    change (v.asText "a string" >>= fun x => pure { s with filter := some x }) =
      ((v.asText "a string").map some).map (Field.filter.put · s)
    cases v.asText "a string" <;> rfl
  | _ => rfl

theorem set_other (s : LoggingSettings) {key : String} (v : Value) (h : ∀ f : Field, f.key ≠ key) :
    s.set (key, v) = .ok s := by
  unfold set
  split
  · next heq => exact absurd (Prod.mk.inj heq).1.symm (h .level)
  · next heq => exact absurd (Prod.mk.inj heq).1.symm (h .format)
  · next heq => exact absurd (Prod.mk.inj heq).1.symm (h .output)
  · next heq => exact absurd (Prod.mk.inj heq).1.symm (h .directory)
  · next heq => exact absurd (Prod.mk.inj heq).1.symm (h .stem)
  · next heq => exact absurd (Prod.mk.inj heq).1.symm (h .spanEvents)
  · next heq => exact absurd (Prod.mk.inj heq).1.symm (h .filter)
  · rfl

/-- The section, field by field. -/
def reader : FieldReader LoggingSettings Field Field.Content where
  name := Field.key
  get := Field.get
  put := Field.put
  read := Field.read
  step := set
  name_injective := by
    intro f g h
    cases f <;> cases g <;> first | rfl | simp [Field.key] at h
  ext := by
    intro s t h
    cases s
    cases t
    congr
    exacts [h .level, h .format, h .output, h .directory, h .stem, h .spanEvents, h .filter]
  get_put f x s := by cases f <;> rfl
  get_put_of_ne {f g} x s h := by cases f <;> cases g <;> first | rfl | exact absurd rfl h
  step_name := set_field
  step_other := set_other

def view : reader.View where
  shown := Field.valueOf
  Accepts := Field.Accepts
  Proper := Field.Proper
  shown_injective := by
    intro f x y h
    cases f with
    | format => cases x <;> cases y <;> first | rfl | simp [Field.valueOf, Log.Format.name] at h
    | output => cases x <;> cases y <;> first | rfl | simp [Field.valueOf, Destination.name] at h
    | filter => exact Option.map_injective (fun s s' hs => Value.string.inj hs) h
    | _ => simpa [Field.valueOf] using h
  read_eq_ok_iff := by
    intro f v x hv
    cases f with
    | level | directory | stem => exact Value.asText_eq_ok_iff
    | format => exact Value.asChoice_eq_ok_iff (by decide) (by rintro (_ | _ | _) <;> rfl) hv
    | output => exact Value.asChoice_eq_ok_iff (by decide) (by rintro (_ | _ | _) <;> rfl) hv
    | spanEvents => exact Value.asBool_eq_ok_iff
    | filter =>
      change (v.asText "a string").map some = .ok x ↔ x.map Value.string = some v
      cases v <;> cases x <;> simp [Value.asText, Except.map, eq_comm]
  accepts_iff := by
    intro f v hv
    cases f with
    | level | directory | stem | spanEvents => simp [Field.Accepts, Field.valueOf, eq_comm]
    | format =>
      constructor
      · rintro (rfl | rfl | rfl)
        exacts [⟨.pretty, rfl⟩, ⟨.compact, rfl⟩, ⟨.json, rfl⟩]
      · rintro ⟨x, hx⟩
        cases x <;> simp_all [Field.Accepts, Field.valueOf, Log.Format.name, eq_comm]
    | output =>
      constructor
      · rintro (rfl | rfl | rfl)
        exacts [⟨.stderr, rfl⟩, ⟨.stdout, rfl⟩, ⟨.file, rfl⟩]
      · rintro ⟨x, hx⟩
        cases x <;> simp_all [Field.Accepts, Field.valueOf, Destination.name, eq_comm]
    | filter =>
      constructor
      · rintro ⟨s, rfl⟩
        exact ⟨some s, rfl⟩
      · rintro ⟨x, hx⟩
        obtain ⟨s, -, rfl⟩ := Option.map_eq_some_iff.1 hx
        exact ⟨s, rfl⟩

end LoggingSettings

/-! ## The section on programs -/

namespace Program.Parameters

inductive Field where
  | fibIndex
  | countTo
  deriving DecidableEq, Repr

namespace Field

/-- The key of a field. -/
def key : Field → String
  | fibIndex => "fib_index"
  | countTo => "count_to"

def get : Field → Parameters → Word
  | fibIndex, p => p.fibIndex
  | countTo, p => p.countTo

def put : Field → Word → Parameters → Parameters
  | fibIndex, w, p => { p with fibIndex := w }
  | countTo, w, p => { p with countTo := w }

theorem key_mem (f : Field) : f.key ∈ keys := by cases f <;> decide

end Field

theorem set_other (p : Parameters) {key : String} (v : Value) (h : ∀ f : Field, f.key ≠ key) :
    p.set (key, v) = .ok p := by
  unfold set
  split
  · next heq => exact absurd (Prod.mk.inj heq).1.symm (h .fibIndex)
  · next heq => exact absurd (Prod.mk.inj heq).1.symm (h .countTo)
  · rfl

/-- The section, field by field. -/
def reader : FieldReader Parameters Field fun _ => Word where
  name := Field.key
  get := Field.get
  put := Field.put
  read _ v := v.asWord
  step := set
  name_injective := by
    intro f g h
    cases f <;> cases g <;> first | rfl | simp [Field.key] at h
  ext := by
    intro p q h
    cases p
    cases q
    congr
    exacts [h .fibIndex, h .countTo]
  get_put f w p := by cases f <;> rfl
  get_put_of_ne {f g} w p h := by cases f <;> cases g <;> first | rfl | exact absurd rfl h
  step_name p f v := by cases f <;> rfl
  step_other := set_other

def view : reader.View where
  shown _ w := some (.integer w.toInt)
  Accepts _ v := ∃ z, v = .integer z
  Proper _ v := v.Sound
  shown_injective := by
    intro f w w' h
    exact Int64.toInt_inj.1 (Value.integer.inj (Option.some.inj h))
  read_eq_ok_iff := Value.asWord_eq_ok_iff
  accepts_iff := by
    intro f v hv
    constructor
    · rintro ⟨z, rfl⟩
      exact ⟨Int64.ofInt z, (Value.asWord_eq_ok_iff hv).1 rfl⟩
    · rintro ⟨w, hw⟩
      exact ⟨w.toInt, (Option.some.inj hw).symm⟩

end Program.Parameters

end Builtins
