import Builtins.Registry.Resolve
import Builtins.Proofs.Registry

/-!
# What a request needs

`Needs r request` is the set of names that a request needs: the names in it, and the links of every
registered builtin that it needs. The search for them keeps one invariant: what was seen or is
pending is needed, and what is requested or linked from a name that was seen is seen or pending.

* `closure_ok`: a search that succeeds finds exactly what is needed, and all of it is registered.
* `closure_error`: a search that fails names something needed that is not registered.
-/
namespace Builtins.Registry

/-- The names that a request needs. -/
inductive Needs (r : Registry) (request : List String) : String → Prop where
  | requested {name} (h : name ∈ request) : Needs r request name
  | linked {name link b} (h : Needs r request name) (hb : r.find? name = some b)
    (hl : link ∈ b.links) : Needs r request link

variable {r : Registry} {request : List String}

/-- Needed names are in every set that has the requested ones and is closed under links. -/
theorem Needs.least {S : String → Prop} (hr : ∀ name ∈ request, S name)
    (hl : ∀ name, S name → ∀ b, r.find? name = some b → ∀ link ∈ b.links, S link) {name : String}
    (h : r.Needs request name) : S name := by
  induction h with
  | requested h => exact hr _ h
  | linked _ hb hlink ih => exact hl _ ih _ hb _ hlink

namespace Frontier

/-! ## What a step does -/

/-- The steps of a search. -/
inductive Step (r : Registry) : Frontier → Frontier → Prop where
  | skip {name pending seen b} (hb : r.find? name = some b) (hs : name ∈ seen) :
    Step r ⟨name :: pending, seen⟩ ⟨pending, seen⟩
  | visit {name pending seen b} (hb : r.find? name = some b) (hs : name ∉ seen) :
    Step r ⟨name :: pending, seen⟩ ⟨b.links.reverse ++ pending, name :: seen⟩

theorem step_some {f g : Frontier} (h : step r f = .ok (some g)) : Step r f g := by
  unfold step at h
  split at h
  · cases h
  · split at h
    · cases h
    · next b hb =>
      rw [get_ok] at hb
      split at h
      · next hs => cases h; exact .skip hb hs
      · next hs => cases h; exact .visit hb hs

theorem step_none {f : Frontier} (h : step r f = .ok none) : f.pending = [] := by
  unfold step at h
  split at h
  · rfl
  · split at h
    · cases h
    · split at h <;> cases h

theorem step_error {f : Frontier} {fault : Fault} (h : step r f = .error fault) :
    ∃ name rest, f.pending = name :: rest ∧ fault = .unknownBuiltin name ∧ r.find? name = none := by
  unfold step at h
  split at h
  · cases h
  · next name pending seen =>
    split at h
    · next hb => cases h; exact ⟨name, pending, rfl, get_error.1 hb⟩
    · split at h <;> cases h

/-! ## The invariant -/

structure Inv (r : Registry) (request : List String) (f : Frontier) : Prop where
  needed : ∀ name, name ∈ f.seen ∨ name ∈ f.pending → r.Needs request name
  registered : ∀ name ∈ f.seen, ∃ b, r.find? name = some b
  requested : ∀ name ∈ request, name ∈ f.seen ∨ name ∈ f.pending
  linked : ∀ name ∈ f.seen, ∀ b, r.find? name = some b → ∀ link ∈ b.links,
    link ∈ f.seen ∨ link ∈ f.pending

theorem inv_init : Inv r request ⟨request.reverse, []⟩ where
  needed name h := .requested (by simpa using h)
  registered name h := by cases h
  requested name h := .inr (by simpa using h)
  linked name h := by cases h

theorem inv_step {f g : Frontier} (h : Step r f g) (hi : Inv r request f) : Inv r request g := by
  cases h with
  | @skip name pending seen b hb hs =>
    -- a name that leaves the pending ones was seen before
    have hmove : ∀ n, n ∈ seen ∨ n ∈ name :: pending → n ∈ seen ∨ n ∈ pending := by
      intro n hn
      rcases hn with hn | hn
      · exact .inl hn
      · rcases List.mem_cons.1 hn with rfl | hn
        · exact .inl hs
        · exact .inr hn
    exact {
      needed := fun n hn => hi.needed n (hn.imp_right (List.mem_cons_of_mem _))
      registered := hi.registered
      requested := fun n hn => hmove n (hi.requested n hn)
      linked := fun n hn c hc l hl => hmove l (hi.linked n hn c hc l hl) }
  | @visit name pending seen b hb hs =>
    have hname : r.Needs request name := hi.needed name (.inr List.mem_cons_self)
    have hmove : ∀ n, n ∈ seen ∨ n ∈ name :: pending →
        n ∈ name :: seen ∨ n ∈ b.links.reverse ++ pending := by
      intro n hn
      rcases hn with hn | hn
      · exact .inl (List.mem_cons_of_mem _ hn)
      · rcases List.mem_cons.1 hn with rfl | hn
        · exact .inl List.mem_cons_self
        · exact .inr (List.mem_append_right _ hn)
    constructor
    case needed =>
      intro n hn
      rcases hn with hn | hn
      · rcases List.mem_cons.1 hn with rfl | hn
        · exact hname
        · exact hi.needed n (.inl hn)
      · rcases List.mem_append.1 hn with hn | hn
        · exact .linked hname hb (List.mem_reverse.1 hn)
        · exact hi.needed n (.inr (List.mem_cons_of_mem _ hn))
    case registered =>
      intro n hn
      rcases List.mem_cons.1 hn with rfl | hn
      · exact ⟨b, hb⟩
      · exact hi.registered n hn
    case requested => exact fun n hn => hmove n (hi.requested n hn)
    case linked =>
      intro n hn c hc l hl
      rcases List.mem_cons.1 hn with rfl | hn
      · obtain rfl := Option.some.inj (hb.symm.trans hc)
        exact .inr (List.mem_append_left _ (List.mem_reverse.2 hl))
      · exact hmove l (hi.linked n hn c hc l hl)

/-! ## Whole searches -/

theorem drain_of_error {f : Frontier} {fault : Fault} (h : step r f = .error fault) :
    drain r f = .error fault := by
  rw [drain]
  split <;> simp_all

theorem drain_of_none {f : Frontier} (h : step r f = .ok none) : drain r f = .ok f.seen := by
  rw [drain]
  split <;> simp_all

theorem drain_of_some {f g : Frontier} (h : step r f = .ok (some g)) : drain r f = drain r g := by
  rw [drain]
  split <;> simp_all

theorem drain_ok {f : Frontier} {seen : List String} (hi : Inv r request f)
    (h : drain r f = .ok seen) : Inv r request ⟨[], seen⟩ := by
  fun_induction drain r f with
  | case1 f fault hs => cases h
  | case2 f hs =>
    cases h
    rw [← step_none hs]
    exact hi
  | case3 f g hs ih => exact ih (inv_step (step_some hs) hi) h

theorem drain_error {f : Frontier} {fault : Fault} (hi : Inv r request f)
    (h : drain r f = .error fault) :
    ∃ name, fault = .unknownBuiltin name ∧ r.Needs request name ∧ r.find? name = none := by
  fun_induction drain r f with
  | case1 f fault' hs =>
    cases h
    obtain ⟨name, rest, hp, hfault, hn⟩ := step_error hs
    exact ⟨name, hfault, hi.needed name (.inr (hp ▸ List.mem_cons_self)), hn⟩
  | case2 f hs => cases h
  | case3 f g hs ih => exact ih (inv_step (step_some hs) hi) h

/-- With nothing pending, exactly what is needed has been seen. -/
theorem Inv.mem_seen {seen : List String} (hi : Inv r request ⟨[], seen⟩) {name : String} :
    name ∈ seen ↔ r.Needs request name := by
  constructor
  · exact fun h => hi.needed name (.inl h)
  · refine Needs.least (fun n hn => ?_) (fun n hn b hb l hl => ?_)
    · exact (hi.requested n hn).resolve_right List.not_mem_nil
    · exact (hi.linked n hn b hb l hl).resolve_right List.not_mem_nil

end Frontier

/-! ## The closure of a request -/

theorem closure_ok {names : List String} (h : r.closure request = .ok names) :
    (∀ name, name ∈ names ↔ r.Needs request name) ∧ ∀ name ∈ names, ∃ b, r.find? name = some b := by
  unfold closure at h
  split at h
  · cases h
  · next seen hd =>
    cases h
    have hi := Frontier.drain_ok Frontier.inv_init hd
    have hmem : ∀ name, name ∈ r.names.filter (· ∈ seen) ↔ name ∈ seen := by
      intro name
      simpa [mem_names_iff] using hi.registered name
    refine ⟨fun name => (hmem name).trans hi.mem_seen, fun name hn => ?_⟩
    exact hi.registered name ((hmem name).1 hn)

theorem closure_nodup {names : List String} (h : r.closure request = .ok names) : names.Nodup := by
  unfold closure at h
  split at h
  · cases h
  · cases h
    exact r.names_nodup.filter _

theorem closure_error {fault : Fault} (h : r.closure request = .error fault) :
    ∃ name, fault = .unknownBuiltin name ∧ r.Needs request name ∧ r.find? name = none := by
  unfold closure at h
  split at h
  · next hd => cases h; exact Frontier.drain_error Frontier.inv_init hd
  · cases h

end Builtins.Registry
