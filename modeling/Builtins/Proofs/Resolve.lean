import Builtins.Proofs.Closure
import Builtins.Proofs.Toposort
import Mathlib

/-!
# What a request resolves to

`resolve` sorts the link graph of what a request needs, and this graph is well-formed: all names in
it are registered, and every link is a name in it. So what is known of the search and of the sort
carries over.

* `resolve_sound`: the builtins of a request are what it needs, each once and after its links.
* `resolve_fails_exactly`: a request fails exactly if it needs a name that is not registered, or if
  its links form a cycle; the fault names such a name.
-/
namespace Builtins.Registry

open Relation

variable {r : Registry} {request names : List String}

/-! ## The link graph -/

theorem mem_linksOf {name link : String} :
    link ∈ r.linksOf name ↔ ∃ b, r.find? name = some b ∧ link ∈ b.links := by
  unfold linksOf
  cases r.find? name <;> simp

theorem linkGraph_edge {link name : String} :
    (r.linkGraph names).Edge link name ↔ name ∈ names ∧ link ∈ r.linksOf name := by
  simp only [Digraph.Edge, linkGraph, List.mem_flatMap, List.mem_map, Prod.mk.injEq]
  constructor
  · rintro ⟨name, hn, link, hl, rfl, rfl⟩
    exact ⟨hn, hl⟩
  · rintro ⟨hn, hl⟩
    exact ⟨name, hn, link, hl, rfl, rfl⟩

/-- The links of what a request needs are among what it needs. -/
theorem links_mem_closure (h : r.closure request = .ok names) {name link : String}
    (hn : name ∈ names) (hl : link ∈ r.linksOf name) : link ∈ names := by
  obtain ⟨hmem, -⟩ := closure_ok h
  obtain ⟨b, hb, hl⟩ := mem_linksOf.1 hl
  exact (hmem link).2 (.linked ((hmem name).1 hn) hb hl)

theorem linkGraph_wellFormed (h : r.closure request = .ok names) :
    (r.linkGraph names).WellFormed where
  nodup := closure_nodup h
  joins he := by
    obtain ⟨hn, hl⟩ := linkGraph_edge.1 he
    exact ⟨links_mem_closure h hn hl, hn⟩

/-- One needed name links to another. -/
def LinksWithin (r : Registry) (request : List String) (a b : String) : Prop :=
  r.Needs request a ∧ r.Needs request b ∧ ∃ c, r.find? a = some c ∧ b ∈ c.links

/-- Following links from a needed name leads back to it. -/
def OnLinkCycle (r : Registry) (request : List String) (name : String) : Prop :=
  TransGen (r.LinksWithin request) name name

theorem linkGraph_edge_iff (h : r.closure request = .ok names) {a b : String} :
    (r.linkGraph names).Edge b a ↔ r.LinksWithin request a b := by
  obtain ⟨hmem, -⟩ := closure_ok h
  rw [linkGraph_edge]
  constructor
  · rintro ⟨ha, hl⟩
    exact ⟨(hmem a).1 ha, (hmem b).1 (links_mem_closure h ha hl), mem_linksOf.1 hl⟩
  · rintro ⟨ha, -, hl⟩
    exact ⟨(hmem a).2 ha, mem_linksOf.2 hl⟩

/-- The edges of the graph are the links turned around, so their cycles are the same. -/
theorem onCycle_iff (h : r.closure request = .ok names) {name : String} :
    (r.linkGraph names).OnCycle name ↔ r.OnLinkCycle request name := by
  have hswap : Function.swap (r.linkGraph names).Edge = r.LinksWithin request := by
    funext a b
    exact propext (linkGraph_edge_iff h)
  rw [Digraph.OnCycle, OnLinkCycle, ← hswap, transGen_swap]

/-! ## The cases of a resolution -/

/-- All that resolving a request can come to. -/
inductive Resolved (r : Registry) (request : List String) : Except Fault (List Builtin) → Prop where
  | unknown {name} (hneeds : r.Needs request name) (hn : r.find? name = none) :
    Resolved r request (.error (.unknownBuiltin name))
  | cycle {names name} (hc : r.closure request = .ok names)
    (hs : (r.linkGraph names).toposort = .error name) : Resolved r request (.error (.linkCycle name))
  | order {names order} (hc : r.closure request = .ok names)
    (hs : (r.linkGraph names).toposort = .ok order) :
    Resolved r request (.ok (order.filterMap r.find?))

theorem resolve_cases (r : Registry) (request : List String) :
    Resolved r request (r.resolve request) := by
  unfold resolve
  split
  · next hc =>
    obtain ⟨name, rfl, hneeds, hn⟩ := closure_error hc
    exact .unknown hneeds hn
  · next names hc =>
    split
    · next hs => exact .cycle hc hs
    · next hs => exact .order hc hs

/-- Every name in the order is found, under its own name. -/
theorem map_name_filterMap {order : List String} (h : ∀ name ∈ order, ∃ b, r.find? name = some b) :
    (order.filterMap r.find?).map (·.name) = order := by
  induction order with
  | nil => rfl
  | cons name order ih =>
    obtain ⟨b, hb⟩ := h name List.mem_cons_self
    rw [List.filterMap_cons_some hb, List.map_cons, name_of_find? hb,
      ih fun n hn => h n (List.mem_cons_of_mem _ hn)]

/-- What a request resolves to, by its names: the needed names in a forward order, and the entries
under them. -/
theorem resolve_ok {bs : List Builtin} (h : r.resolve request = .ok bs) :
    ∃ names, r.closure request = .ok names ∧ (bs.map (·.name)).Perm names ∧
      (r.linkGraph names).Forward (bs.map (·.name)) ∧ ∀ b ∈ bs, r.find? b.name = some b := by
  have hcases := resolve_cases r request
  rw [h] at hcases
  cases hcases with
  | @order names order hc hs =>
    obtain ⟨hperm, hforward⟩ := Digraph.toposort_ok (linkGraph_wellFormed hc) hs
    have hfound : ∀ name ∈ order, ∃ b, r.find? name = some b := fun name hn =>
      (closure_ok hc).2 name (hperm.mem_iff.1 hn)
    rw [map_name_filterMap hfound]
    refine ⟨names, hc, hperm, hforward, fun b hb => ?_⟩
    obtain ⟨name, -, hb⟩ := List.mem_filterMap.1 hb
    rwa [name_of_find? hb]

/-! ## Soundness -/

/-- The sets of names that have the requested ones and are closed under links. -/
def LinkClosed (r : Registry) (request : List String) : Set (Set String) :=
  {S | (∀ name ∈ request, name ∈ S) ∧
    ∀ name ∈ S, ∀ b, r.find? name = some b → ∀ link ∈ b.links, link ∈ S}

theorem isLeast_needs (r : Registry) (request : List String) :
    IsLeast (r.LinkClosed request) {name | r.Needs request name} :=
  ⟨⟨fun _ => .requested, fun _ hn _ hb _ hl => .linked hn hb hl⟩,
    fun _ hS _ hn => hn.least hS.1 hS.2⟩

/-- The builtins of a request have distinct names; their names are the least set that has the
requested ones and is closed under links, with the entry under each name; and everything that a
builtin links to stands before it. -/
theorem resolve_sound (r : Registry) (request : List String) (bs : List Builtin)
    (h : r.resolve request = .ok bs) :
    (bs.map (·.name)).Nodup ∧
      IsLeast (r.LinkClosed request) {name | ∃ b ∈ bs, b.name = name} ∧
      (∀ b ∈ bs, r.get b.name = .ok b) ∧
      ∀ (i : Nat) (b : Builtin), bs[i]? = some b → ∀ link ∈ b.links,
        ∃ (j : Nat) (c : Builtin), j < i ∧ bs[j]? = some c ∧ c.name = link := by
  obtain ⟨names, hc, hperm, hforward, hfind⟩ := resolve_ok h
  have hset : {name | ∃ b ∈ bs, b.name = name} = {name | r.Needs request name} := by
    ext name
    show (∃ b ∈ bs, b.name = name) ↔ r.Needs request name
    rw [← (closure_ok hc).1 name, ← hperm.mem_iff, List.mem_map]
  refine ⟨hperm.nodup_iff.2 (closure_nodup hc), ?_, fun b hb => get_ok.2 (hfind b hb), ?_⟩
  · rw [hset]
    exact isLeast_needs r request
  · intro i b hi link hl
    have hb : b ∈ bs := List.mem_of_getElem? hi
    have hedge : (r.linkGraph names).Edge link b.name := linkGraph_edge.2
      ⟨hperm.mem_iff.1 (List.mem_map_of_mem hb), mem_linksOf.2 ⟨b, hfind b hb, hl⟩⟩
    -- the list of names, split at the place of `b`
    obtain ⟨hlen, hbi⟩ := List.getElem?_eq_some_iff.1 hi
    have hsplit : bs.map (·.name) =
        (bs.take i).map (·.name) ++ b.name :: (bs.drop (i + 1)).map (·.name) := by
      rw [← List.map_cons, ← List.map_append, ← hbi, List.cons_getElem_drop_succ,
        List.take_append_drop]
    obtain ⟨c, hcmem, rfl⟩ := List.mem_map.1 (hforward _ _ _ hsplit link hedge)
    obtain ⟨j, hj⟩ := List.mem_iff_getElem?.1 hcmem
    rw [List.getElem?_take] at hj
    split at hj
    · next hji => exact ⟨j, c, hji, hj, rfl⟩
    · cases hj

/-- Four builtins, two of which link to the same one; one link is there twice. -/
def diamond : Registry :=
  ofList [{ name := "d" }, { name := "b", links := ["d"] },
    { name := "a", links := ["b", "c", "b"] }, { name := "c", links := ["d"] }]

theorem resolve_sound_diamond :
    ∃ bs, diamond.resolve ["a"] = .ok bs ∧ bs.map (·.name) = ["d", "c", "b", "a"] ∧
      ∀ (i : Nat) (b : Builtin), bs[i]? = some b → ∀ link ∈ b.links,
        ∃ (j : Nat) (c : Builtin), j < i ∧ bs[j]? = some c ∧ c.name = link :=
  ⟨[{ name := "d" }, { name := "c", links := ["d"] }, { name := "b", links := ["d"] },
    { name := "a", links := ["b", "c", "b"] }], by cbv, by decide,
    (resolve_sound diamond ["a"] _ (by cbv)).2.2.2⟩

/-! ## Failures -/

/-- Everything that a request needs is registered. -/
def Complete (r : Registry) (request : List String) : Prop :=
  ∀ name, r.Needs request name → ∃ b, r.find? name = some b

theorem complete_of_closure (h : r.closure request = .ok names) : r.Complete request := by
  obtain ⟨hmem, hreg⟩ := closure_ok h
  exact fun name hn => hreg name ((hmem name).2 hn)

theorem not_complete {name : String} (hneeds : r.Needs request name) (hn : r.find? name = none) :
    ¬ r.Complete request := by
  intro hall
  obtain ⟨b, hb⟩ := hall name hneeds
  rw [hn] at hb
  cases hb

/-- The three outcomes, each with what it says about the request. -/
theorem resolve_outcome (r : Registry) (request : List String) :
    (∃ name, r.resolve request = .error (.unknownBuiltin name) ∧
        r.Needs request name ∧ r.find? name = none) ∨
      (∃ name, r.resolve request = .error (.linkCycle name) ∧
        r.Complete request ∧ r.OnLinkCycle request name) ∨
      ∃ bs, r.resolve request = .ok bs ∧ r.Complete request ∧ ¬ ∃ name, r.OnLinkCycle request name := by
  have hcases := resolve_cases r request
  generalize r.resolve request = outcome at hcases
  cases hcases with
  | @unknown name hneeds hn => exact .inl ⟨name, rfl, hneeds, hn⟩
  | @cycle names name hc hs =>
    have hcycle := Digraph.toposort_error (linkGraph_wellFormed hc) hs
    exact .inr (.inl ⟨name, rfl, complete_of_closure hc, (onCycle_iff hc).1 hcycle⟩)
  | @order names order hc hs =>
    refine .inr (.inr ⟨_, rfl, complete_of_closure hc, ?_⟩)
    rintro ⟨name, hcycle⟩
    obtain ⟨x, herr⟩ := (Digraph.toposort_error_iff (linkGraph_wellFormed hc)).2
      ⟨name, (onCycle_iff hc).2 hcycle⟩
    rw [hs] at herr
    cases herr

theorem resolve_unknown_iff :
    (∃ name, r.resolve request = .error (.unknownBuiltin name)) ↔
      ∃ name, r.Needs request name ∧ r.find? name = none := by
  obtain ⟨name, h, hneeds, hn⟩ | ⟨name, h, hall, -⟩ | ⟨bs, h, hall, -⟩ := resolve_outcome r request
  · exact ⟨fun _ => ⟨name, hneeds, hn⟩, fun _ => ⟨name, h⟩⟩
  · simp only [h, Except.error.injEq, reduceCtorEq, exists_false, false_iff]
    exact fun ⟨_, hneeds, hn⟩ => not_complete hneeds hn hall
  · simp only [h, reduceCtorEq, exists_false, false_iff]
    exact fun ⟨_, hneeds, hn⟩ => not_complete hneeds hn hall

theorem resolve_cycle_iff :
    (∃ name, r.resolve request = .error (.linkCycle name)) ↔
      r.Complete request ∧ ∃ name, r.OnLinkCycle request name := by
  obtain ⟨name, h, hneeds, hn⟩ | ⟨name, h, hall, hcycle⟩ | ⟨bs, h, -, hno⟩ := resolve_outcome r request
  · simp [h, not_complete hneeds hn]
  · exact ⟨fun _ => ⟨hall, name, hcycle⟩, fun _ => ⟨name, h⟩⟩
  · simp only [h, reduceCtorEq, exists_false, false_iff]
    exact fun hr => hno hr.2

theorem resolve_isOk_iff :
    (∃ bs, r.resolve request = .ok bs) ↔
      r.Complete request ∧ ¬ ∃ name, r.OnLinkCycle request name := by
  obtain ⟨name, h, hneeds, hn⟩ | ⟨name, h, -, hcycle⟩ | ⟨bs, h, hall, hno⟩ := resolve_outcome r request
  · simp [h, not_complete hneeds hn]
  · simp only [h, reduceCtorEq, exists_false, false_iff]
    exact fun hr => hr.2 ⟨name, hcycle⟩
  · exact ⟨fun _ => ⟨hall, hno⟩, fun _ => ⟨bs, h⟩⟩

/-- The name in a fault is one that is at fault. -/
theorem resolve_error {fault : Fault} (h : r.resolve request = .error fault) :
    (∃ name, fault = .unknownBuiltin name ∧ r.Needs request name ∧ r.find? name = none) ∨
      ∃ name, fault = .linkCycle name ∧ r.OnLinkCycle request name := by
  obtain ⟨name, h', hneeds, hn⟩ | ⟨name, h', -, hcycle⟩ | ⟨bs, h', -, -⟩ := resolve_outcome r request
  · cases h.symm.trans h'
    exact .inl ⟨name, rfl, hneeds, hn⟩
  · cases h.symm.trans h'
    exact .inr ⟨name, rfl, hcycle⟩
  · cases h.symm.trans h'

/-- No lookup on the way misses: what a request needs is registered and has all its links among what
it needs, and so is every name that the sort gives. -/
theorem lookups_hit (h : r.closure request = .ok names) :
    (∀ name ∈ names, ∃ b, r.find? name = some b ∧ ∀ link ∈ b.links, link ∈ names) ∧
      ∀ order, (r.linkGraph names).toposort = .ok order →
        ∀ name ∈ order, ∃ b, r.find? name = some b := by
  obtain ⟨-, hreg⟩ := closure_ok h
  constructor
  · intro name hn
    obtain ⟨b, hb⟩ := hreg name hn
    exact ⟨b, hb, fun link hl => links_mem_closure h hn (mem_linksOf.2 ⟨b, hb, hl⟩)⟩
  · intro order hs name hn
    obtain ⟨hperm, -⟩ := Digraph.toposort_ok (linkGraph_wellFormed h) hs
    exact hreg name (hperm.mem_iff.1 hn)

/-- Resolving a request fails with an unknown builtin exactly if the request needs a name that is not
registered, and names such a name; otherwise with a cycle exactly if the links of what it needs form
one, and names a builtin on it; otherwise it succeeds. All lookups on the way find something. -/
theorem resolve_fails_exactly (r : Registry) (request : List String) :
    ((∃ name, r.resolve request = .error (.unknownBuiltin name)) ↔
        ∃ name, r.Needs request name ∧ r.find? name = none) ∧
      (∀ name, r.resolve request = .error (.unknownBuiltin name) →
        r.Needs request name ∧ r.find? name = none) ∧
      ((∃ name, r.resolve request = .error (.linkCycle name)) ↔
        r.Complete request ∧ ∃ name, r.OnLinkCycle request name) ∧
      (∀ name, r.resolve request = .error (.linkCycle name) → r.OnLinkCycle request name) ∧
      ((∃ bs, r.resolve request = .ok bs) ↔
        r.Complete request ∧ ¬ ∃ name, r.OnLinkCycle request name) ∧
      ∀ names, r.closure request = .ok names →
        (∀ name ∈ names, ∃ b, r.find? name = some b ∧ ∀ link ∈ b.links, link ∈ names) ∧
          ∀ order, (r.linkGraph names).toposort = .ok order →
            ∀ name ∈ order, ∃ b, r.find? name = some b := by
  refine ⟨resolve_unknown_iff, fun name h => ?_, resolve_cycle_iff, fun name h => ?_,
    resolve_isOk_iff, fun _ => lookups_hit⟩
  · obtain ⟨_, ⟨⟩, hname⟩ | ⟨_, ⟨⟩, _⟩ := resolve_error h
    exact hname
  · obtain ⟨_, ⟨⟩, _⟩ | ⟨_, ⟨⟩, hcycle⟩ := resolve_error h
    exact hcycle

end Builtins.Registry
