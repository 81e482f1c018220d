import Builtins.Proofs.Overrides
import Builtins.Proofs.Requests

/-!
# Registrations that a request does not see

Resolving a request looks up the names that it needs and no others, so two registries that agree on
these names resolve it alike. What else is registered may link to what is needed, form cycles or link
to nothing: the search never gets there, and the order of the names that it finds is their own.

* `Agrees`: two registries find the same under all names that a request needs.
* `Agrees.drain`, `Agrees.closure`, `Agrees.linkGraph`: the search, what it finds, and its link graph.
* `unrelated_registrations_unseen`: what this says of registering and linking.
-/
namespace Builtins.Registry

variable {r s : Registry} {request : List String}

/-- `s` finds what `r` finds under every name that the request needs in `r`. -/
def Agrees (r s : Registry) (request : List String) : Prop :=
  ∀ name, r.Needs request name → s.find? name = r.find? name

/-! ## The search -/

namespace Agrees

/-- The next pending name is needed, so it is looked up with the same result. -/
theorem step {f : Frontier} (h : Agrees r s request) (hi : Frontier.Inv r request f) :
    Frontier.step s f = Frontier.step r f := by
  obtain ⟨pending, seen⟩ := f
  cases pending with
  | nil => rfl
  | cons name pending =>
    have hname := h name (hi.needed name (.inr List.mem_cons_self))
    simp only [Frontier.step, get, hname]

theorem drain {f : Frontier} (h : Agrees r s request) (hi : Frontier.Inv r request f) :
    Frontier.drain s f = Frontier.drain r f := by
  fun_induction Frontier.drain r f with
  | case1 f fault hs => exact Frontier.drain_of_error ((h.step hi).trans hs)
  | case2 f hs => exact Frontier.drain_of_none ((h.step hi).trans hs)
  | case3 f g hs ih =>
    rw [Frontier.drain_of_some ((h.step hi).trans hs)]
    exact ih (Frontier.inv_step (Frontier.step_some hs) hi)

/-- What was seen is registered in both, and stands in the order of the names. -/
theorem filter_names {seen : List String} (h : Agrees r s request)
    (hi : Frontier.Inv r request ⟨[], seen⟩) :
    s.names.filter (· ∈ seen) = r.names.filter (· ∈ seen) := by
  refine eq_of_ordered id ((List.pairwise_map.2 s.ordered).filter _)
    ((List.pairwise_map.2 r.ordered).filter _) fun name => ?_
  simp only [List.mem_filter, decide_eq_true_eq]
  refine and_congr_left fun hseen => ?_
  rw [mem_names_iff, mem_names_iff, h name (hi.needed name (.inl hseen))]

theorem closure (h : Agrees r s request) : s.closure request = r.closure request := by
  unfold Registry.closure
  rw [h.drain Frontier.inv_init]
  split
  · rfl
  · next seen hd => rw [h.filter_names (Frontier.drain_ok Frontier.inv_init hd)]

/-! ## The order -/

variable {names : List String}

theorem find? (h : Agrees r s request) (hc : r.closure request = .ok names) {name : String}
    (hn : name ∈ names) : s.find? name = r.find? name := h name (((closure_ok hc).1 name).1 hn)

theorem linkGraph (h : Agrees r s request) (hc : r.closure request = .ok names) :
    s.linkGraph names = r.linkGraph names := by
  have hlinks : ∀ name ∈ names, s.linksOf name = r.linksOf name := fun name hn => by
    rw [linksOf, linksOf, h.find? hc hn]
  unfold Registry.linkGraph
  rw [List.flatMap_congr fun name hn => by rw [hlinks name hn]]

theorem resolve (h : Agrees r s request) : s.resolve request = r.resolve request := by
  unfold Registry.resolve
  rw [h.closure]
  split
  · rfl
  · next names hc =>
    rw [h.linkGraph hc]
    split
    · rfl
    · next order hs =>
      obtain ⟨hperm, -⟩ := Digraph.toposort_ok (linkGraph_wellFormed hc) hs
      rw [List.filterMap_congr fun name hn => h.find? hc (hperm.mem_iff.1 hn)]

theorem headers (h : Agrees r s request) : s.headers request = r.headers request := by
  unfold Registry.headers
  rw [h.resolve]

end Agrees

/-! ## Registering and linking -/

/-- Registering builtins under names that a request does not need. -/
theorem agrees_registerAll {bs : List Builtin} (h : ∀ b ∈ bs, ¬ r.Needs request b.name) :
    Agrees r (r.registerAll bs) request := by
  intro name hneeds
  have hnone : latest? bs name = none := latest?_eq_none_iff.2 fun b hb hname => h b hb (hname ▸ hneeds)
  rw [find?_registerAll, hnone, Option.none_or]

/-- If no entry of a library has a name that a request needs, linking the library changes nothing for
the request: it resolves to the same builtins in the same order or fails in the same way, and so do its
headers. Nor do any of its builtins that are registered one by one, in any order. It does not matter
whether all that the request needs is registered. -/
theorem unrelated_registrations_unseen (r library : Registry) (request : List String)
    (h : ∀ b ∈ library.builtins, ¬ r.Needs request b.name) :
    ((r.link library).resolve request = r.resolve request ∧
        (r.link library).headers request = r.headers request) ∧
      ∀ bs : List Builtin, (∀ b ∈ bs, b ∈ library.builtins) →
        (r.registerAll bs).resolve request = r.resolve request ∧
          (r.registerAll bs).headers request = r.headers request := by
  have hagrees : ∀ bs : List Builtin, (∀ b ∈ bs, b ∈ library.builtins) →
      Agrees r (r.registerAll bs) request := fun bs hbs => agrees_registerAll fun b hb => h b (hbs b hb)
  have hlink : Agrees r (r.link library) request := hagrees library.builtins fun _ hb => hb
  exact ⟨⟨hlink.resolve, hlink.headers⟩, fun bs hbs => ⟨(hagrees bs hbs).resolve, (hagrees bs hbs).headers⟩⟩

/-- Two builtins that link to each other, and one that they do not need. -/
def pair : Registry :=
  ofList [{ name := "x", links := ["y"] }, { name := "y", links := ["x"] }, { name := "z" }]

/-- A library that replaces what they do not need and links to them, to itself and to nothing. -/
def intruders : Registry :=
  ofList [{ name := "z", links := ["x", "nothing"] }, { name := "a", links := ["a", "y"] }]

theorem unrelated_registrations_unseen_pair :
    (∀ b ∈ intruders.builtins, ¬ pair.Needs ["x"] b.name) ∧
      pair.resolve ["x"] = .error (.linkCycle "y") ∧
      (pair.link intruders).resolve ["x"] = .error (.linkCycle "y") ∧
      (pair.registerAll intruders.builtins.reverse).headers ["x"] = pair.headers ["x"] := by
  have hclosure : pair.closure ["x"] = .ok ["x", "y"] := by cbv
  have hbuiltins : intruders.builtins =
      [{ name := "a", links := ["a", "y"] }, { name := "z", links := ["x", "nothing"] }] := by cbv
  have hunrelated : ∀ b ∈ intruders.builtins, ¬ pair.Needs ["x"] b.name := by
    rw [hbuiltins]
    simp only [← (closure_ok hclosure).1]
    decide
  have hcycle : pair.resolve ["x"] = .error (.linkCycle "y") := by cbv
  obtain ⟨⟨hlink, -⟩, hregister⟩ := unrelated_registrations_unseen pair intruders ["x"] hunrelated
  exact ⟨hunrelated, hcycle, hlink.trans hcycle, (hregister _ fun b hb => List.mem_reverse.1 hb).2⟩

end Builtins.Registry
