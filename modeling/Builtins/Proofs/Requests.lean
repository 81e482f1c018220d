import Builtins.Proofs.Resolve

/-!
# Requests that need the same

The search for what a request needs goes through the names in an order that depends on the request,
and the order of the result depends on the order in which the link graph is built. In between, what
is needed is put into the order of the names, so nothing of the request is left but the set of names
that it needs.

* `closure_ordered`, `closure_congr`: the closure is the ordered list of what is needed, so requests
  with the same needs have the same closure.
* `needs_iff_of_between`: names that are needed anyway can be added to a request.
* `outcome_determined_by_needs`: requests with the same needs resolve to the same.
-/
namespace Builtins.Registry

variable {r : Registry} {request other : List String}

/-! ## The closure as a set -/

theorem closure_ordered {names : List String} (h : r.closure request = .ok names) :
    names.Pairwise fun a b => precedes a b := by
  unfold closure at h
  split at h
  · cases h
  · cases h
    exact (List.pairwise_map.2 r.ordered).filter _

theorem closure_of_complete (h : r.Complete request) : ∃ names, r.closure request = .ok names := by
  cases hc : r.closure request with
  | ok names => exact ⟨names, rfl⟩
  | error fault =>
    obtain ⟨name, -, hneeds, hn⟩ := closure_error hc
    exact absurd h (not_complete hneeds hn)

theorem closure_congr (hall : r.Complete request)
    (h : ∀ name, r.Needs other name ↔ r.Needs request name) :
    r.closure other = r.closure request := by
  have hall' : r.Complete other := fun name hn => hall name ((h name).1 hn)
  obtain ⟨names, hc⟩ := closure_of_complete hall
  obtain ⟨names', hc'⟩ := closure_of_complete hall'
  have hnames : names' = names := by
    refine eq_of_ordered id (closure_ordered hc') (closure_ordered hc) fun name => ?_
    rw [(closure_ok hc').1, (closure_ok hc).1, h]
  rw [hc, hc', hnames]

/-! ## The outcome of a request -/

/-- Two requests resolve to the same builtins in the same order or fail with the same fault, and so
do their headers. -/
def SameOutcome (r : Registry) (request other : List String) : Prop :=
  r.resolve request = r.resolve other ∧ r.headers request = r.headers other

theorem sameOutcome_of_closure (h : r.closure other = r.closure request) :
    r.SameOutcome other request := by
  have hresolve : r.resolve other = r.resolve request := by
    unfold resolve
    rw [h]
  refine ⟨hresolve, ?_⟩
  unfold headers
  rw [hresolve]

/-! ## Changing a request -/

/-- What is needed for names that are needed is needed. -/
theorem needs_of_needs (h : ∀ name ∈ other, r.Needs request name) {name : String}
    (hn : r.Needs other name) : r.Needs request name :=
  hn.least h fun _ hname _ hb _ hl => .linked hname hb hl

/-- A request with more names in it that are needed anyway needs nothing more. -/
theorem needs_iff_of_between (hsub : ∀ name ∈ request, name ∈ other)
    (hadd : ∀ name ∈ other, r.Needs request name) (name : String) :
    r.Needs other name ↔ r.Needs request name :=
  ⟨needs_of_needs hadd, needs_of_needs fun n hn => .requested (hsub n hn)⟩

theorem needs_iff_of_mem (h : ∀ name, name ∈ other ↔ name ∈ request) (name : String) :
    r.Needs other name ↔ r.Needs request name :=
  needs_iff_of_between (fun n hn => (h n).2 hn) (fun n hn => .requested ((h n).1 hn)) name

/-- The builtins of a request need what the request needs. -/
theorem needs_resolved {bs : List Builtin} (h : r.resolve request = .ok bs) (name : String) :
    r.Needs (bs.map (·.name)) name ↔ r.Needs request name := by
  obtain ⟨names, hc, hperm, -, -⟩ := resolve_ok h
  have hmem : ∀ n, n ∈ bs.map (·.name) ↔ r.Needs request n := fun n => by
    rw [hperm.mem_iff, (closure_ok hc).1]
  exact needs_iff_of_between (fun n hn => (hmem n).2 (.requested hn)) (fun n hn => (hmem n).1 hn) name

/-- The outcome of a request whose needs are all registered depends on what it needs and on nothing
else. So names can be put into another order, repeated, or added if they are needed anyway, and the
names of a result can be requested again. Nor does it matter in which order builtins with distinct
names were registered. -/
theorem outcome_determined_by_needs :
    (∀ (r : Registry) (request : List String), r.Complete request →
      (∀ other, (∀ name, r.Needs other name ↔ r.Needs request name) → r.SameOutcome other request) ∧
      (∀ other : List String, other.Perm request → r.SameOutcome other request) ∧
      (∀ other : List String, (∀ name, name ∈ other ↔ name ∈ request) →
        r.SameOutcome other request) ∧
      (∀ other : List String, (∀ name ∈ request, name ∈ other) →
        (∀ name ∈ other, r.Needs request name) → r.SameOutcome other request) ∧
      ∀ bs, r.resolve request = .ok bs →
        r.resolve (bs.map (·.name)) = .ok bs ∧ r.SameOutcome (bs.map (·.name)) request) ∧
    ∀ bs cs : List Builtin, bs.Perm cs → (bs.map (·.name)).Nodup → ∀ request : List String,
      (ofList bs).resolve request = (ofList cs).resolve request ∧
        (ofList bs).headers request = (ofList cs).headers request := by
  constructor
  · intro r request hall
    have hsame : ∀ other, (∀ name, r.Needs other name ↔ r.Needs request name) →
        r.SameOutcome other request := fun other h => sameOutcome_of_closure (closure_congr hall h)
    refine ⟨hsame, fun other h => hsame other (needs_iff_of_mem fun _ => h.mem_iff),
      fun other h => hsame other (needs_iff_of_mem h),
      fun other hsub hadd => hsame other (needs_iff_of_between hsub hadd), fun bs hbs => ?_⟩
    have hagain := hsame _ (needs_resolved hbs)
    exact ⟨hagain.1.trans hbs, hagain⟩
  · intro bs cs hperm hnames request
    have hregistry : ofList bs = ofList cs := registerAll_perm {} hperm hnames
    rw [hregistry]
    exact ⟨rfl, rfl⟩

/-- Requests of the diamond that all need the whole of it, and the diamond registered in another
order. -/
theorem outcome_determined_by_needs_diamond :
    diamond.Complete ["a"] ∧ diamond.SameOutcome ["c", "a", "d", "a"] ["a"] ∧
      diamond.resolve ["d", "c", "b", "a"] = diamond.resolve ["a"] ∧
      diamond.resolve ["a"] = (ofList [{ name := "a", links := ["b", "c", "b"] },
        { name := "c", links := ["d"] }, { name := "d" }, { name := "b", links := ["d"] }]).resolve
          ["a"] := by
  have hbs : diamond.resolve ["a"] = .ok [{ name := "d" }, { name := "c", links := ["d"] },
      { name := "b", links := ["d"] }, { name := "a", links := ["b", "c", "b"] }] := by cbv
  obtain ⟨hall, -⟩ := resolve_isOk_iff.1 ⟨_, hbs⟩
  obtain ⟨-, -, -, hadd, hagain⟩ := outcome_determined_by_needs.1 diamond ["a"] hall
  refine ⟨hall, hadd _ (by decide) fun name hname => ?_, (hagain _ hbs).1.trans hbs.symm,
    (outcome_determined_by_needs.2 _ _ (by decide) (by decide) ["a"]).1⟩
  rw [← needs_resolved hbs]
  refine .requested ?_
  revert name
  decide

end Builtins.Registry
