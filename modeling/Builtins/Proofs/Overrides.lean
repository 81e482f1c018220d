import Builtins.Registry.Action
import Builtins.Proofs.Registry
import Mathlib

/-!
# The latest registration wins

However builtins get into a registry, one by one, as a list or as a library, what a name finds is the
builtin that was given last under it. A library is put together first and is then linked in the order
of the names; it has one entry for each name by then, so nothing of the order in which it was given
gets lost.

* `latest?`: the last of some builtins under a name; `Latest` says the same without a search.
* `records_apply`, `records_applyAll`: one action and any number of them.
* `link_ofList`: linking a library is registering its builtins in the order given.
* `latest_registration_wins`: what holds of a registry after any actions.
-/
namespace Builtins.Registry

variable {r : Registry} {history bs : List Builtin} {name : String} {b : Builtin}

/-! ## The latest of some builtins -/

/-- `b` has the name, and none of the builtins that were given after it has. -/
def Latest (history : List Builtin) (name : String) (b : Builtin) : Prop :=
  ∃ before after, history = before ++ b :: after ∧ b.name = name ∧ ∀ c ∈ after, c.name ≠ name

/-- The last builtin of this name. -/
def latest? (history : List Builtin) (name : String) : Option Builtin :=
  history.reverse.find? (·.name = name)

theorem latest?_eq_some_iff : latest? history name = some b ↔ Latest history name b := by
  rw [latest?, List.find?_eq_some_iff_append]
  constructor
  · rintro ⟨hname, after, before, hsplit, hafter⟩
    refine ⟨before.reverse, after.reverse, ?_, by simpa using hname, fun c hc => ?_⟩
    · rw [← List.reverse_reverse history, hsplit]
      simp
    · simpa using hafter c (List.mem_reverse.1 hc)
  · rintro ⟨before, after, rfl, hname, hafter⟩
    refine ⟨by simpa using hname, after.reverse, before.reverse, by simp, fun c hc => ?_⟩
    simpa using hafter c (List.mem_reverse.1 hc)

theorem latest?_eq_none_iff : latest? history name = none ↔ ∀ c ∈ history, c.name ≠ name := by
  simp [latest?]

theorem latest?_append (history later : List Builtin) (name : String) :
    latest? (history ++ later) name = (latest? later name).or (latest? history name) := by
  simp [latest?, List.find?_append]

/-- In a registry there is one builtin of each name, so the last one is the only one. -/
theorem latest?_builtins (r : Registry) (name : String) : latest? r.builtins name = r.find? name := by
  cases h : latest? r.builtins name with
  | none =>
    cases hf : r.find? name with
    | none => rfl
    | some c =>
      have hname := name_of_find? hf
      have hc : c ∈ r.builtins := mem_builtins_iff.2 (hname.symm ▸ hf)
      exact absurd hname (latest?_eq_none_iff.1 h c hc)
  | some b =>
    obtain ⟨before, after, hsplit, rfl, -⟩ := latest?_eq_some_iff.1 h
    have hb : b ∈ r.builtins := by simp [hsplit]
    exact (mem_builtins_iff.1 hb).symm

/-! ## Registering and linking -/

theorem find?_registerAll (r : Registry) (bs : List Builtin) (name : String) :
    (r.registerAll bs).find? name = (latest? bs name).or (r.find? name) := by
  induction bs generalizing r with
  | nil => rfl
  | cons b bs ih =>
    have hone : latest? [b] name = if b.name = name then some b else none := by
      by_cases hb : b.name = name <;> simp [latest?, hb]
    have hcons : r.registerAll (b :: bs) = (r.register b).2.registerAll bs := rfl
    rw [hcons, ih, find?_register, show b :: bs = [b] ++ bs from rfl, latest?_append, hone, Option.or_assoc]
    split <;> rfl

/-- The builtins of a library end up as if they had been registered themselves. -/
theorem link_ofList (r : Registry) (bs : List Builtin) : r.link (ofList bs) = r.registerAll bs := by
  refine eq_of_find? fun name => ?_
  have hlibrary : (ofList bs).find? name = latest? bs name := by
    rw [ofList, find?_registerAll]
    exact Option.or_none
  rw [link, find?_registerAll, latest?_builtins, hlibrary, find?_registerAll]

/-! ## Any number of actions -/

/-- What a registry holds are the latest of the builtins that were given. -/
def Records (history : List Builtin) (r : Registry) : Prop := ∀ name, r.find? name = latest? history name

theorem records_empty : Records [] {} := fun _ => rfl

theorem records_registerAll (h : Records history r) (bs : List Builtin) :
    Records (history ++ bs) (r.registerAll bs) := by
  intro name
  rw [find?_registerAll, h, latest?_append]

theorem records_standard : Records standardLibrary standard :=
  records_registerAll records_empty standardLibrary

namespace Action

/-- The builtins that an action puts into a registry, in the order in which they are given. -/
def given : Action → List Builtin
  | register b => [b]
  | registerAll bs => bs
  | linkLibrary bs => bs
  | linkStandard => standardLibrary

/-- The registry after some actions. -/
def applyAll (r : Registry) (actions : List Action) : Registry := actions.foldl apply r

/-- Every action is the registration of what it is given, one after another. -/
theorem apply_eq_registerAll (r : Registry) (a : Action) : a.apply r = r.registerAll a.given := by
  cases a with
  | register b => rfl
  | registerAll bs => rfl
  | linkLibrary bs => exact link_ofList r bs
  | linkStandard => exact link_ofList r standardLibrary

theorem records_apply (h : Records history r) (a : Action) :
    Records (history ++ a.given) (a.apply r) := by
  rw [apply_eq_registerAll]
  exact records_registerAll h a.given

theorem records_applyAll (h : Records history r) (actions : List Action) :
    Records (history ++ actions.flatMap given) (applyAll r actions) := by
  induction actions generalizing history r with
  | nil => simpa [applyAll] using h
  | cons a actions ih =>
    have hrest := ih (records_apply h a)
    rwa [List.append_assoc, ← List.flatMap_cons] at hrest

end Action

/-! ## The registry as a map -/

/-- A registry is the map from names to the latest builtin given under them. -/
structure LatestWins (history : List Builtin) (r : Registry) : Prop where
  own_name : ∀ name b, (name, b) ∈ r.entries ↔ b.name = name ∧ r.get name = .ok b
  get_latest : ∀ name b, r.get name = .ok b ↔ Latest history name b
  get_unknown : ∀ name fault, r.get name = .error fault ↔
    fault = .unknownBuiltin name ∧ ∀ c ∈ history, c.name ≠ name
  /-- Registering gives back the entry that is no longer there, and changes nothing else. -/
  displaced : ∀ b, (∀ old, (r.register b).1 = some old ↔ r.get b.name = .ok old) ∧
    ∀ c, c ∈ (r.register b).2.builtins ↔ c = b ∨ c ∈ r.builtins ∧ (r.register b).1 ≠ some c
  names_order : InByteOrder r.names
  names_exact : ∀ name, name ∈ r.names ↔ ∃ b, r.get name = .ok b
  size_eq : r.size = (history.map (·.name)).toFinset.card

theorem mem_register_iff (r : Registry) (b c : Builtin) :
    c ∈ (r.register b).2.builtins ↔ c = b ∨ c ∈ r.builtins ∧ (r.register b).1 ≠ some c := by
  have hold : (r.register b).1 = r.find? b.name := rfl
  rw [mem_builtins_iff, find?_register, hold, mem_builtins_iff]
  split
  · next hname => simp [hname, eq_comm]
  · next hname =>
    -- a builtin of another name is neither the new one nor the one found under that name
    have hne : c ≠ b := fun h => hname (by rw [h])
    have hfind : r.find? b.name ≠ some c := fun h => hname (name_of_find? h).symm
    simp [hne, hfind]

theorem size_of_records (h : Records history r) :
    r.size = (history.map (·.name)).toFinset.card := by
  have hnames : r.names.toFinset = (history.map (·.name)).toFinset := by
    ext name
    rw [List.mem_toFinset, List.mem_toFinset, mem_names_iff, h name, ← Option.isSome_iff_exists,
      latest?, List.find?_isSome]
    simp
  calc r.size = r.names.length := by simp [size, names]
    _ = r.names.toFinset.card := (List.toFinset_card_of_nodup r.names_nodup).symm
    _ = (history.map (·.name)).toFinset.card := by rw [hnames]

theorem latestWins_of_records (h : Records history r) : LatestWins history r where
  own_name name b := by
    rw [get_ok, mem_entries_iff]
    exact ⟨fun hf => ⟨name_of_find? hf, hf⟩, And.right⟩
  get_latest name b := by rw [get_ok, h, latest?_eq_some_iff]
  get_unknown name fault := by rw [get_error, h, latest?_eq_none_iff]
  displaced b := ⟨fun old => get_ok.symm, mem_register_iff r b⟩
  names_order := r.names_inByteOrder
  names_exact name := by simp only [mem_names_iff, get_ok]
  size_eq := size_of_records h

/-- Whatever is registered and linked, starting with nothing or with the standard builtins: each builtin
is under its own name, and it is the latest that was given under this name. Registering gives back the
entry that it displaces; the names stand in byte order, and the size is their number. Linking a
library leaves what registering its builtins in the order given leaves. -/
theorem latest_registration_wins (actions : List Action) :
    LatestWins (actions.flatMap Action.given) (Action.applyAll {} actions) ∧
      LatestWins (standardLibrary ++ actions.flatMap Action.given) (Action.applyAll standard actions) ∧
      ∀ (r : Registry) (bs : List Builtin),
        (Action.linkLibrary bs).apply r = (Action.registerAll bs).apply r :=
  ⟨latestWins_of_records (Action.records_applyAll records_empty actions),
    latestWins_of_records (Action.records_applyAll records_standard actions), link_ofList⟩

/-- A library that gives a name twice and clashes with an entry. -/
example : (Action.applyAll standard [.linkLibrary [{ name := "pow", params := ["x"] },
    { name := "pow", params := ["y"] }], .register { name := "abs" }]).get "pow" =
      .ok { name := "pow", params := ["y"] } := by cbv

end Builtins.Registry
