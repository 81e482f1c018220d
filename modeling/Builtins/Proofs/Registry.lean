import Builtins.Registry
import Mathlib.Data.List.Nodup
import Mathlib.Data.List.Sort

/-!
# Looking names up

The entries of a registry stand in the strict order of their keys, so a name finds at most one
entry, and every entry is found under its key, which is the name of its builtin. Hence a registry is
determined by what its names find, and registering a builtin changes that for its own name only.
-/
namespace Builtins.Registry

variable {r : Registry} {name : String} {b : Builtin}

/-- Distinct names in byte order. -/
def InByteOrder (names : List String) : Prop := names.Pairwise fun a b => nameBytes a < nameBytes b

theorem inByteOrder_iff {names : List String} :
    InByteOrder names ↔ names.Pairwise fun a b => precedes a b := by
  simp [InByteOrder, precedes]

theorem InByteOrder.nodup {names : List String} (h : InByteOrder names) : names.Nodup := by
  refine List.Pairwise.imp (fun {a b} hlt he => ?_) h
  rw [he] at hlt
  exact List.lt_irrefl _ hlt

theorem names_inByteOrder (r : Registry) : InByteOrder r.names :=
  inByteOrder_iff.2 (List.pairwise_map.2 r.ordered)

theorem names_nodup (r : Registry) : r.names.Nodup := r.names_inByteOrder.nodup

/-- Entries with the same key are the same. -/
theorem eq_of_key {c : Builtin} (hb : (name, b) ∈ r.entries) (hc : (name, c) ∈ r.entries) : b = c :=
  congrArg Prod.snd (List.inj_on_of_nodup_map r.names_nodup hb hc rfl)

theorem find?_of_mem (h : (name, b) ∈ r.entries) : r.find? name = some b := by
  cases hf : r.find? name with
  | none => exact absurd (List.lookup_eq_none_iff.1 hf (name, b) h) (by simp)
  | some c => rw [eq_of_key (mem_of_find? hf) h]

theorem mem_entries_iff : (name, b) ∈ r.entries ↔ r.find? name = some b :=
  ⟨find?_of_mem, mem_of_find?⟩

/-- Nothing is lost with the keys: they are the names. -/
theorem mem_builtins_iff : b ∈ r.builtins ↔ r.find? b.name = some b := by
  constructor
  · intro h
    obtain ⟨⟨key, c⟩, hc, rfl⟩ := List.mem_map.1 h
    have hkey : c.name = key := r.named _ hc
    exact find?_of_mem (hkey ▸ hc)
  · intro h
    exact List.mem_map.2 ⟨_, mem_of_find? h, rfl⟩

theorem mem_names_iff : name ∈ r.names ↔ ∃ b, r.find? name = some b := by
  simp [names, mem_entries_iff]

/-! ## Registries with the same entries -/

/-- Lists in the strict order of some names are the same if they have the same members. -/
theorem eq_of_ordered {α : Type} (key : α → String) {xs ys : List α}
    (hx : xs.Pairwise fun a b => precedes (key a) (key b))
    (hy : ys.Pairwise fun a b => precedes (key a) (key b)) (h : ∀ a, a ∈ xs ↔ a ∈ ys) : xs = ys := by
  have hasymm : ∀ a b : α, precedes (key a) (key b) = true →
      precedes (key b) (key a) = true → False := fun a b hab hba => by
    have := precedes_trans hab hba
    rw [precedes_irrefl] at this
    cases this
  have : Std.Irrefl fun a b : α => precedes (key a) (key b) = true := ⟨fun a ha => hasymm a a ha ha⟩
  have : Std.Antisymm fun a b : α => precedes (key a) (key b) = true :=
    ⟨fun a b hab hba => (hasymm a b hab hba).elim⟩
  exact hx.eq_of_mem_iff hy h

/-- Two registries are the same if every name finds the same in them. -/
theorem eq_of_find? {s : Registry} (h : ∀ name, r.find? name = s.find? name) : r = s := by
  have hentries : r.entries = s.entries := by
    refine eq_of_ordered Prod.fst r.ordered s.ordered fun e => ?_
    rw [mem_entries_iff, mem_entries_iff, h]
  cases r
  cases s
  cases hentries
  rfl

/-! ## Registering -/

theorem lookup_cons_entry (e : String × Builtin) (es : List (String × Builtin)) (name : String) :
    (e :: es).lookup name = if e.1 = name then some e.2 else es.lookup name := by
  rw [List.lookup_cons]
  by_cases he : e.1 = name
  · simp [he]
  · simp [he, beq_eq_false_iff_ne.2 (Ne.symm he)]

theorem lookup_insertSorted (key : String) (b : Builtin) (es : List (String × Builtin))
    (name : String) :
    (insertSorted key b es).lookup name = if key = name then some b else es.lookup name := by
  induction es with
  | nil => exact lookup_cons_entry (key, b) [] name
  | cons e es ih =>
    rw [insertSorted]
    split
    · next he => by_cases hkey : key = name <;> simp [lookup_cons_entry, hkey, he]
    · next he =>
      split
      · exact lookup_cons_entry (key, b) (e :: es) name
      · rw [lookup_cons_entry, ih, lookup_cons_entry]
        by_cases hkey : key = name
        · have hne : e.1 ≠ name := fun h => he (h.trans hkey.symm)
          simp [hkey, hne]
        · simp [hkey]

theorem find?_register (r : Registry) (b : Builtin) (name : String) :
    (r.register b).2.find? name = if b.name = name then some b else r.find? name :=
  lookup_insertSorted b.name b r.entries name

/-- Builtins with different names can be registered in either order. -/
theorem register_comm {c : Builtin} (r : Registry) (h : b.name ≠ c.name) :
    ((r.register b).2.register c).2 = ((r.register c).2.register b).2 := by
  refine eq_of_find? fun name => ?_
  simp only [find?_register]
  by_cases hb : b.name = name
  · by_cases hc : c.name = name
    · exact absurd (hb.trans hc.symm) h
    · simp [hb, hc]
  · simp [hb]

/-- The order in which builtins with distinct names are registered does not matter. -/
theorem registerAll_perm {bs cs : List Builtin} (r : Registry) (h : bs.Perm cs)
    (hnames : (bs.map (·.name)).Nodup) : r.registerAll bs = r.registerAll cs := by
  refine h.foldl_eq' (fun b hb c hc s => ?_) r
  by_cases hbc : b = c
  · rw [hbc]
  · exact register_comm s fun hname => hbc (List.inj_on_of_nodup_map hnames hb hc hname)

end Builtins.Registry
