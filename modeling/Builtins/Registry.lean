import Builtins.Fault

/-!
# The registry of builtins

A registry is a map whose keys stand in byte order; the key of a builtin is its name. Registering a
builtin replaces the one of the same name; linking a library registers all its builtins.
-/
namespace Builtins

/-- A builtin function: its name, its parameters, the headers it needs and the names of the builtins
it links to. -/
structure Builtin where
  name : String
  params : List String := []
  headers : List String := []
  links : List String := []
  deriving DecidableEq, Repr

/-- The bytes of a name. -/
def nameBytes (name : String) : List UInt8 := name.toUTF8.data.toList

/-- The order of names: by their bytes. -/
def precedes (a b : String) : Bool := decide (nameBytes a < nameBytes b)

theorem nameBytes_inj {a b : String} (h : nameBytes a = nameBytes b) : a = b := by
  apply String.toByteArray_inj.mp
  apply ByteArray.ext
  exact Array.toList_inj.mp h

theorem precedes_irrefl (a : String) : precedes a a = false := by
  simp [precedes, List.lt_irrefl]

theorem precedes_trans {a b c : String} (hab : precedes a b) (hbc : precedes b c) :
    precedes a c := by
  simp only [precedes, decide_eq_true_eq] at *
  exact List.lt_trans hab hbc

theorem precedes_of_ne {a b : String} (hne : a ≠ b) (h : precedes b a = false) : precedes a b := by
  simp only [precedes, decide_eq_true_eq, decide_eq_false_iff_not] at *
  rcases Std.lt_trichotomy (nameBytes a) (nameBytes b) with hlt | heq | hgt
  · exact hlt
  · exact absurd (nameBytes_inj heq) hne
  · exact absurd hgt h

/-- Entries in the strict order of their keys, so that no two have the same one. -/
abbrev Ordered (es : List (String × Builtin)) : Prop := es.Pairwise fun a b => precedes a.1 b.1

structure Registry where
  entries : List (String × Builtin) := []
  ordered : Ordered entries := by exact .nil
  /-- Every builtin is under its own name. -/
  named : ∀ e ∈ entries, e.2.name = e.1 := by simp
  deriving DecidableEq, Repr

namespace Registry

/-- Puts a builtin under a key into a list ordered by keys, in place of an entry with this key. -/
def insertSorted (key : String) (b : Builtin) : List (String × Builtin) → List (String × Builtin)
  | [] => [(key, b)]
  | e :: es =>
    if e.1 = key then (key, b) :: es
    else if precedes key e.1 then (key, b) :: e :: es
    else e :: insertSorted key b es

theorem mem_insertSorted {key : String} {b : Builtin} {x : String × Builtin}
    {es : List (String × Builtin)} (h : x ∈ insertSorted key b es) : x = (key, b) ∨ x ∈ es := by
  induction es with
  | nil => simpa [insertSorted] using h
  | cons e es ih =>
    simp only [insertSorted] at h
    split at h
    · rcases List.mem_cons.1 h with rfl | hx
      · exact .inl rfl
      · exact .inr (List.mem_cons_of_mem _ hx)
    · split at h
      · exact List.mem_cons.1 h
      · rcases List.mem_cons.1 h with rfl | hx
        · exact .inr List.mem_cons_self
        · exact (ih hx).imp_right (List.mem_cons_of_mem _)

theorem ordered_insertSorted (key : String) (b : Builtin) {es : List (String × Builtin)}
    (h : Ordered es) : Ordered (insertSorted key b es) := by
  induction es with
  | nil => exact .cons (fun _ hx => by cases hx) .nil
  | cons e es ih =>
    obtain ⟨he, hes⟩ := List.pairwise_cons.1 h
    simp only [insertSorted]
    split
    · next heq => exact .cons (fun x hx => heq ▸ he x hx) hes
    · next hne =>
      split
      · next hkey =>
        refine .cons (fun x hx => ?_) h
        rcases List.mem_cons.1 hx with rfl | hx
        · exact hkey
        · exact precedes_trans hkey (he x hx)
      · next hkey =>
        refine .cons (fun x hx => ?_) (ih hes)
        rcases mem_insertSorted hx with rfl | hx
        · exact precedes_of_ne hne (by simpa using hkey)
        · exact he x hx

theorem named_insertSorted (b : Builtin) {es : List (String × Builtin)}
    (h : ∀ e ∈ es, e.2.name = e.1) : ∀ e ∈ insertSorted b.name b es, e.2.name = e.1 := by
  intro e he
  rcases mem_insertSorted he with rfl | he
  · rfl
  · exact h e he

/-- The builtin under a key. -/
def find? (r : Registry) (name : String) : Option Builtin := r.entries.lookup name

theorem mem_of_find? {r : Registry} {name : String} {b : Builtin} (h : r.find? name = some b) :
    (name, b) ∈ r.entries := by
  obtain ⟨before, after, hsplit, -⟩ := List.lookup_eq_some_iff.1 h
  simp [hsplit]

theorem name_of_find? {r : Registry} {name : String} {b : Builtin} (h : r.find? name = some b) :
    b.name = name := r.named _ (mem_of_find? h)

/-- Adds a builtin under its name; the result tells which one it replaced. -/
def register (r : Registry) (b : Builtin) : Option Builtin × Registry :=
  (r.find? b.name, ⟨insertSorted b.name b r.entries, ordered_insertSorted b.name b r.ordered,
    named_insertSorted b r.named⟩)

def registerAll (r : Registry) (bs : List Builtin) : Registry :=
  bs.foldl (fun r b => (r.register b).2) r

/-- The registry of the given builtins. -/
def ofList (bs : List Builtin) : Registry := registerAll {} bs

/-- The builtins without their keys. -/
def builtins (r : Registry) : List Builtin := r.entries.map (·.2)

/-- Adds all builtins of a library, in the order of their keys. -/
def link (r : Registry) (library : Registry) : Registry := r.registerAll library.builtins

def get (r : Registry) (name : String) : Except Fault Builtin :=
  match r.find? name with
  | some b => .ok b
  | none => .error (.unknownBuiltin name)

theorem get_ok {r : Registry} {name : String} {b : Builtin} :
    r.get name = .ok b ↔ r.find? name = some b := by
  unfold get
  split
  · next c hc => rw [hc, Except.ok.injEq, Option.some.injEq]
  · next hn => simp [hn]

theorem get_error {r : Registry} {name : String} {fault : Fault} :
    r.get name = .error fault ↔ fault = .unknownBuiltin name ∧ r.find? name = none := by
  unfold get
  split
  · next b hb => simp [hb]
  · next hn => simp [hn, eq_comm]

def contains (r : Registry) (name : String) : Bool := (r.find? name).isSome

def names (r : Registry) : List String := r.entries.map (·.1)

def size (r : Registry) : Nat := r.entries.length

/-- The builtins that every program can use, in the order in which they are registered. -/
def standardLibrary : List Builtin :=
  [{ name := "range", params := ["end"] },
   { name := "print", params := ["print_string"], headers := ["iostream"] },
   { name := "input", params := ["print_string"], headers := ["iostream", "utility"], links := ["print"] },
   { name := "str", params := ["obj"], headers := ["iostream"] },
   { name := "int", params := ["obj"], headers := ["iostream"] },
   { name := "pow", params := ["value", "exponent"], headers := ["cmath"] },
   { name := "add", params := ["number_one", "number_two"] },
   { name := "mul", params := ["x", "y"] }]

def standard : Registry := ofList standardLibrary

end Registry

end Builtins
