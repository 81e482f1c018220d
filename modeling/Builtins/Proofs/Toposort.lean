import Builtins.Digraph
import Mathlib.Data.List.Perm.Lattice
import Mathlib.Logic.Relation

/-!
# What a topological sort finds

On a well-formed graph `Digraph.toposort` gives all nodes in an order in which every edge leads
forward, or names a node on a cycle. So it fails exactly if there is a cycle.

**The first pass.** A node is open while it is discovered and not finished; it is then on the stack,
and what stands above its topmost copy (`above`) was put there by it or by nodes that it reaches.
`Walk.Inv` says so, with the two consequences that carry the proof:

* an undiscovered successor of an open node stands above it, so when the node gets to the top again
  all its successors are discovered;
* a successor of a node that is finished is finished before it, or reaches it.

**The second pass.** It looks for an edge that does not lead forward in the order of the first pass.
The end of such an edge finished after its origin, so it reaches the origin: the two are on a cycle.

* `toposort_ok`: the order has every node once, and every edge leads forward in it.
* `toposort_error`: the node that is named is on a cycle.
-/
namespace Builtins.Digraph

open Relation

variable {α : Type}

/-- There is an edge from `x` to `y`. -/
def Edge (g : Digraph α) (x y : α) : Prop := (x, y) ∈ g.edges

/-- A node that gets back to itself along one edge or more. -/
def OnCycle (g : Digraph α) (x : α) : Prop := TransGen g.Edge x x

/-- Edges join nodes, and no node is there twice. -/
structure WellFormed (g : Digraph α) : Prop where
  nodup : g.nodes.Nodup
  joins : ∀ {x y}, g.Edge x y → x ∈ g.nodes ∧ y ∈ g.nodes

/-- Every edge leads forward in the order: its origin stands before its end. -/
def Forward (g : Digraph α) (order : List α) : Prop :=
  ∀ before y after, order = before ++ y :: after → ∀ x, g.Edge x y → x ∈ before

variable [DecidableEq α] {g : Digraph α}

@[simp] theorem mem_successors {x y : α} : y ∈ g.successors x ↔ g.Edge x y := by
  simp [successors, Edge]

@[simp] theorem mem_predecessors {x y : α} : x ∈ g.predecessors y ↔ g.Edge x y := by
  simp [predecessors, Edge]

theorem mem_push {fresh xs stack : List α} {x : α} :
    x ∈ push fresh xs stack ↔ (x ∈ xs ∧ x ∈ fresh) ∨ x ∈ stack := by
  simp [push]

/-! ## The part of a stack above a node -/

/-- What stands on a stack above the topmost copy of a node. -/
def above (x : α) (stack : List α) : List α := stack.takeWhile (· ≠ x)

@[simp] theorem above_cons_self (x : α) (stack : List α) : above x (x :: stack) = [] := by
  simp [above]

theorem above_cons_of_ne {x y : α} (h : y ≠ x) (stack : List α) :
    above x (y :: stack) = y :: above x stack := by
  simp [above, h]

theorem above_append {x : α} {xs : List α} (h : x ∉ xs) (stack : List α) :
    above x (xs ++ stack) = xs ++ above x stack := by
  unfold above
  rw [List.takeWhile_append_of_pos]
  intro y hy
  simpa using fun he : y = x => h (he ▸ hy)

/-- A node that is discovered has all that is put on the stack above it. -/
theorem mem_above_push {fresh xs stack : List α} {x y : α} (h : x ∉ fresh) :
    y ∈ above x (push fresh xs stack) ↔ (y ∈ xs ∧ y ∈ fresh) ∨ y ∈ above x stack := by
  have hx : x ∉ (xs.filter (· ∈ fresh)).reverse := by simp [h]
  rw [push, above_append hx]
  simp

namespace Walk

/-! ## What a step does -/

/-- The steps of a walk. -/
inductive Step (g : Digraph α) : Walk α → Walk α → Prop where
  | start {root roots fresh finished} (hr : root ∈ fresh) :
    Step g ⟨root :: roots, [], fresh, finished⟩ ⟨roots, [root], fresh, finished⟩
  | skip {root roots fresh finished} (hr : root ∉ fresh) :
    Step g ⟨root :: roots, [], fresh, finished⟩ ⟨roots, [], fresh, finished⟩
  | discover {roots x stack fresh finished} (hx : x ∈ fresh) (hl : ¬ g.Edge x x) :
    Step g ⟨roots, x :: stack, fresh, finished⟩
      ⟨roots, push (fresh.erase x) (g.successors x) (x :: stack), fresh.erase x, finished⟩
  | finish {roots x stack fresh finished} (hx : x ∉ fresh) (hf : x ∉ finished) :
    Step g ⟨roots, x :: stack, fresh, finished⟩ ⟨roots, stack, fresh, x :: finished⟩
  | drop {roots x stack fresh finished} (hx : x ∉ fresh) (hf : x ∈ finished) :
    Step g ⟨roots, x :: stack, fresh, finished⟩ ⟨roots, stack, fresh, finished⟩

theorem step_some {v w : Walk α} (h : step g v = .ok (some w)) : Step g v w := by
  unfold step at h
  split at h
  · cases h
  · next root roots fresh finished =>
    cases h
    by_cases hr : root ∈ fresh
    · rw [if_pos hr]; exact .start hr
    · rw [if_neg hr]; exact .skip hr
  · next roots x stack fresh finished =>
    split at h
    · next hx =>
      split at h
      · cases h
      · next hl => cases h; exact .discover hx (by simpa using hl)
    · next hx =>
      split at h
      · next hf => cases h; exact .drop hx hf
      · next hf => cases h; exact .finish hx hf

theorem step_none {w : Walk α} (h : step g w = .ok none) : w.roots = [] ∧ w.stack = [] := by
  unfold step at h
  split at h
  · exact ⟨rfl, rfl⟩
  · cases h
  · split at h
    · split at h <;> cases h
    · split at h <;> cases h

theorem step_error {w : Walk α} {x : α} (h : step g w = .error x) : g.Edge x x := by
  unfold step at h
  split at h
  · cases h
  · cases h
  · split at h
    · split at h
      · next hl => cases h; simpa using hl
      · cases h
    · split at h <;> cases h

/-! ## The invariant of the first pass -/

/-- Discovered and not finished. -/
def Open (w : Walk α) (x : α) : Prop := x ∉ w.fresh ∧ x ∉ w.finished

structure Inv (g : Digraph α) (w : Walk α) : Prop where
  fresh_nodup : w.fresh.Nodup
  finished_nodup : w.finished.Nodup
  finished_nodes : ∀ x ∈ w.finished, x ∈ g.nodes ∧ x ∉ w.fresh
  waiting : ∀ x ∈ w.fresh, x ∈ w.roots ∨ x ∈ w.stack
  covered : ∀ x ∈ g.nodes, x ∈ w.fresh ∨ x ∈ w.stack ∨ x ∈ w.finished
  in_graph : ∀ x, x ∈ w.fresh ∨ x ∈ w.roots ∨ x ∈ w.stack → x ∈ g.nodes
  no_loop : ∀ x ∈ g.nodes, x ∉ w.fresh → ¬ g.Edge x x
  /-- An open node reaches what stands above it. -/
  reaches : ∀ x ∈ w.stack, w.Open x → ∀ y ∈ above x w.stack, ReflTransGen g.Edge x y
  /-- What an open node has yet to discover stands above it. -/
  pending : ∀ x ∈ w.stack, w.Open x → ∀ y, g.Edge x y → y ∈ w.fresh → y ∈ above x w.stack
  /-- A successor of a finished node finished earlier or reaches it. -/
  settled : ∀ later x earlier, w.finished = later ++ x :: earlier →
    ∀ y, g.Edge x y → y ∈ earlier ∨ ReflTransGen g.Edge y x

theorem inv_init (hg : g.WellFormed) : Inv g ⟨g.nodes, [], g.nodes, []⟩ where
  fresh_nodup := hg.nodup
  finished_nodup := List.nodup_nil
  finished_nodes x hx := by cases hx
  waiting x hx := .inl hx
  covered x hx := .inl hx
  in_graph x hx := by simpa using hx
  no_loop x hx hn := absurd hx hn
  reaches x hx := by cases hx
  pending x hx := by cases hx
  settled later x earlier h := by simp at h

theorem inv_start {root : α} {roots fresh finished : List α} (hr : root ∈ fresh)
    (hi : Inv g ⟨root :: roots, [], fresh, finished⟩) : Inv g ⟨roots, [root], fresh, finished⟩ where
  fresh_nodup := hi.fresh_nodup
  finished_nodup := hi.finished_nodup
  finished_nodes := hi.finished_nodes
  waiting x hx := by simpa [or_comm] using hi.waiting x hx
  covered x hx := (hi.covered x hx).imp_right fun h => .inr (by simpa using h)
  in_graph x hx := by
    refine hi.in_graph x ?_
    simp only [List.mem_cons, List.not_mem_nil] at hx ⊢
    tauto
  no_loop := hi.no_loop
  -- the root itself is not open yet, so nothing on the stack is
  reaches x hx ho := by rw [List.mem_singleton.1 hx] at ho; exact absurd hr ho.1
  pending x hx ho := by rw [List.mem_singleton.1 hx] at ho; exact absurd hr ho.1
  settled := hi.settled

theorem inv_skip {root : α} {roots fresh finished : List α} (hr : root ∉ fresh)
    (hi : Inv g ⟨root :: roots, [], fresh, finished⟩) : Inv g ⟨roots, [], fresh, finished⟩ where
  fresh_nodup := hi.fresh_nodup
  finished_nodup := hi.finished_nodup
  finished_nodes := hi.finished_nodes
  waiting x hx := by
    have hne : x ≠ root := fun he => hr (he ▸ hx)
    simpa [hne] using hi.waiting x hx
  covered := hi.covered
  in_graph x hx := by
    refine hi.in_graph x ?_
    simp only [List.mem_cons, List.not_mem_nil] at hx ⊢
    tauto
  no_loop := hi.no_loop
  reaches := hi.reaches
  pending := hi.pending
  settled := hi.settled

/-- Discovering a node opens it; its undiscovered successors stand above it, and above every node
that was open before. -/
theorem inv_discover {roots : List α} {x : α} {stack fresh finished : List α} (hg : g.WellFormed)
    (hx : x ∈ fresh) (hl : ¬ g.Edge x x) (hi : Inv g ⟨roots, x :: stack, fresh, finished⟩) :
    Inv g ⟨roots, push (fresh.erase x) (g.successors x) (x :: stack), fresh.erase x, finished⟩ := by
  have hmem : ∀ y, y ∈ fresh.erase x ↔ y ≠ x ∧ y ∈ fresh := fun y => hi.fresh_nodup.mem_erase_iff
  -- a node that is open afterwards is `x`, or was open before and stands further down
  have hopen : ∀ z, z ∉ fresh.erase x → z = x ∨ z ≠ x ∧ z ∉ fresh := by
    intro z hz
    rw [hmem] at hz
    tauto
  have hstack : ∀ z, z ∈ push (fresh.erase x) (g.successors x) (x :: stack) → z ∉ fresh.erase x →
      z ∈ x :: stack := fun z hz hn => (mem_push.1 hz).resolve_left fun h => hn h.2
  constructor
  case fresh_nodup => exact hi.fresh_nodup.erase x
  case finished_nodup => exact hi.finished_nodup
  case finished_nodes =>
    intro y hy
    exact ⟨(hi.finished_nodes y hy).1, fun h => (hi.finished_nodes y hy).2 ((hmem y).1 h).2⟩
  case waiting =>
    intro y hy
    exact (hi.waiting y ((hmem y).1 hy).2).imp_right fun h => mem_push.2 (.inr h)
  case covered =>
    intro y hy
    by_cases he : y = x
    · exact .inr (.inl (mem_push.2 (.inr (by simp [he]))))
    · rcases hi.covered y hy with h | h | h
      · exact .inl ((hmem y).2 ⟨he, h⟩)
      · exact .inr (.inl (mem_push.2 (.inr h)))
      · exact .inr (.inr h)
  case in_graph =>
    intro y hy
    rcases hy with h | h | h
    · exact hi.in_graph y (.inl ((hmem y).1 h).2)
    · exact hi.in_graph y (.inr (.inl h))
    · rcases mem_push.1 h with h | h
      · exact (hg.joins (mem_successors.1 h.1)).2
      · exact hi.in_graph y (.inr (.inr h))
  case no_loop =>
    intro y hy hn
    rcases hopen y hn with rfl | ⟨-, hf⟩
    · exact hl
    · exact hi.no_loop y hy hf
  case reaches =>
    intro z hz ho y hy
    rw [mem_above_push ho.1, mem_successors] at hy
    rcases hopen z ho.1 with rfl | ⟨hne, hf⟩
    · rw [above_cons_self] at hy
      exact .single (hy.resolve_right List.not_mem_nil).1
    · have hbefore := hi.reaches z (hstack z hz ho.1) ⟨hf, ho.2⟩
      rcases hy with hy | hy
      · exact (hbefore x (by simp [above_cons_of_ne hne.symm])).tail hy.1
      · exact hbefore y hy
  case pending =>
    intro z hz ho y hzy hy
    rw [mem_above_push ho.1, mem_successors]
    rcases hopen z ho.1 with rfl | ⟨-, hf⟩
    · exact .inl ⟨hzy, hy⟩
    · exact .inr (hi.pending z (hstack z hz ho.1) ⟨hf, ho.2⟩ y hzy ((hmem y).1 hy).2)
  case settled => exact hi.settled

/-- Taking the top off the stack, once it is not to be discovered any more. -/
theorem inv_pop {roots : List α} {x : α} {stack fresh finished finished' : List α}
    (hx : x ∉ fresh) (hsub : ∀ y, y ∈ finished → y ∈ finished') (hdone : x ∈ finished')
    (hnodup : finished'.Nodup) (hnodes : ∀ y ∈ finished', y ∈ g.nodes ∧ y ∉ fresh)
    (hsettled : ∀ later y earlier, finished' = later ++ y :: earlier →
      ∀ z, g.Edge y z → z ∈ earlier ∨ ReflTransGen g.Edge z y)
    (hi : Inv g ⟨roots, x :: stack, fresh, finished⟩) : Inv g ⟨roots, stack, fresh, finished'⟩ where
  fresh_nodup := hi.fresh_nodup
  finished_nodup := hnodup
  finished_nodes := hnodes
  waiting y hy := by
    have hne : y ≠ x := fun he => hx (he ▸ hy)
    simpa [hne] using hi.waiting y hy
  covered y hy := by
    rcases hi.covered y hy with h | h | h
    · exact .inl h
    · rcases List.mem_cons.1 h with rfl | h
      · exact .inr (.inr hdone)
      · exact .inr (.inl h)
    · exact .inr (.inr (hsub y h))
  in_graph y hy := by
    refine hi.in_graph y ?_
    simp only [List.mem_cons] at hy ⊢
    tauto
  no_loop := hi.no_loop
  reaches y hy ho z hz := by
    have hne : x ≠ y := fun he => ho.2 (he ▸ hdone)
    refine hi.reaches y (List.mem_cons_of_mem _ hy) ⟨ho.1, fun h => ho.2 (hsub y h)⟩ z ?_
    rw [above_cons_of_ne hne]
    exact List.mem_cons_of_mem _ hz
  pending y hy ho z hyz hz := by
    have hne : x ≠ y := fun he => ho.2 (he ▸ hdone)
    have hmem := hi.pending y (List.mem_cons_of_mem _ hy) ⟨ho.1, fun h => ho.2 (hsub y h)⟩ z hyz hz
    rw [above_cons_of_ne hne] at hmem
    exact (List.mem_cons.1 hmem).resolve_left fun he => hx (he ▸ hz)
  settled := hsettled

/-- When a node is finished, its successors are finished already, or they are open and stand below
it, so that they reach it. -/
theorem inv_finish {roots : List α} {x : α} {stack fresh finished : List α} (hg : g.WellFormed)
    (hx : x ∉ fresh) (hf : x ∉ finished) (hi : Inv g ⟨roots, x :: stack, fresh, finished⟩) :
    Inv g ⟨roots, stack, fresh, x :: finished⟩ := by
  have hnode : x ∈ g.nodes := hi.in_graph x (by simp)
  have hsucc : ∀ y, g.Edge x y → y ∈ finished ∨ ReflTransGen g.Edge y x := by
    intro y hxy
    have hy : y ∉ fresh := by
      intro hy
      have := hi.pending x (by simp) ⟨hx, hf⟩ y hxy hy
      simp at this
    have hne : x ≠ y := by
      rintro rfl
      exact hi.no_loop x hnode hx hxy
    by_cases hfy : y ∈ finished
    · exact .inl hfy
    · rcases hi.covered y (hg.joins hxy).2 with h | h | h
      · exact absurd h hy
      · exact .inr (hi.reaches y h ⟨hy, hfy⟩ x (by simp [above_cons_of_ne hne]))
      · exact absurd h hfy
  refine inv_pop hx (fun y hy => List.mem_cons_of_mem _ hy) List.mem_cons_self
    (List.nodup_cons.2 ⟨hf, hi.finished_nodup⟩) ?_ ?_ hi
  · intro y hy
    rcases List.mem_cons.1 hy with rfl | hy
    · exact ⟨hnode, hx⟩
    · exact hi.finished_nodes y hy
  · intro later y earlier he z hyz
    cases later with
    | nil =>
      obtain ⟨rfl, rfl⟩ := List.cons.inj he
      exact hsucc z hyz
    | cons l later =>
      obtain ⟨-, he⟩ := List.cons.inj he
      exact hi.settled later y earlier he z hyz

theorem inv_step {v w : Walk α} (hg : g.WellFormed) (h : Step g v w) (hi : Inv g v) : Inv g w := by
  cases h with
  | start hr => exact inv_start hr hi
  | skip hr => exact inv_skip hr hi
  | discover hx hl => exact inv_discover hg hx hl hi
  | finish hx hf => exact inv_finish hg hx hf hi
  | drop hx hf =>
    exact inv_pop hx (fun _ h => h) hf hi.finished_nodup hi.finished_nodes hi.settled hi

/-! ## Whole walks -/

/-- A walk that ends does so in a state that satisfies the invariant, with nothing left to visit. -/
theorem run_ok {w : Walk α} {order : List α} (hg : g.WellFormed) (hi : Inv g w)
    (h : run g w = .ok order) : ∃ fresh, Inv g ⟨[], [], fresh, order⟩ := by
  fun_induction run g w with
  | case1 w x hs => cases h
  | case2 w hs =>
    cases h
    obtain ⟨roots, stack, fresh, finished⟩ := w
    obtain ⟨rfl, rfl⟩ := step_none hs
    exact ⟨fresh, hi⟩
  | case3 w v hs ih => exact ih (inv_step hg (step_some hs) hi) h

theorem run_error {w : Walk α} {x : α} (h : run g w = .error x) : g.Edge x x := by
  fun_induction run g w with
  | case1 w y hs => cases h; exact step_error hs
  | case2 w hs => cases h
  | case3 w v hs ih => exact ih h

/-- The order of a whole walk has every node once. -/
theorem Inv.perm {fresh order : List α} (hg : g.WellFormed) (hi : Inv g ⟨[], [], fresh, order⟩) :
    order.Perm g.nodes := by
  have hfresh : ∀ x, x ∉ fresh := fun x hx => by simpa using hi.waiting x hx
  refine (List.perm_ext_iff_of_nodup hi.finished_nodup hg.nodup).2 fun x => ⟨?_, ?_⟩
  · exact fun hx => (hi.finished_nodes x hx).1
  · intro hx
    simpa [hfresh x] using hi.covered x hx

theorem Inv.loopless {fresh order : List α} (hg : g.WellFormed)
    (hi : Inv g ⟨[], [], fresh, order⟩) (x : α) : ¬ g.Edge x x := by
  intro hl
  refine hi.no_loop x (hg.joins hl).1 (fun hx => ?_) hl
  simpa using hi.waiting x hx

end Walk

/-! ## The second pass -/

theorem report_of_mem {fresh stack : List α} {x : α} (hx : x ∈ fresh) :
    g.report fresh (x :: stack) =
      some (x, push (fresh.erase x) (g.predecessors x) stack, fresh.erase x) := by
  simp [report, hx]

/-- From an undiscovered node the search reports a second one exactly if a predecessor is left. -/
theorem second?_cons {fresh xs : List α} {x : α} (hx : x ∈ fresh) :
    g.second? fresh (x :: xs) =
      (push (fresh.erase x) (g.predecessors x) []).head?.or (g.second? (fresh.erase x) xs) := by
  rw [second?, report_of_mem hx]
  cases hs : push (fresh.erase x) (g.predecessors x) [] with
  | nil => simp [report]
  | cons y ys =>
    have hy : y ∈ fresh.erase x := by
      have : y ∈ push (fresh.erase x) (g.predecessors x) [] := by simp [hs]
      simpa using (mem_push.1 this).imp_left And.right
    simp [report_of_mem hy]

/-- `x` is the origin of an edge that leads backward in the order, seen by a pass that has not
discovered `fresh` when it gets to the order. -/
def Backward (g : Digraph α) (fresh order : List α) (x : α) : Prop :=
  ∃ before y after, order = before ++ y :: after ∧ g.Edge x y ∧ x ∈ fresh ∧ x ∉ before ∧ x ≠ y

theorem backward_cons {fresh order : List α} {x z : α} (hf : fresh.Nodup) :
    g.Backward fresh (z :: order) x ↔
      (g.Edge x z ∧ x ∈ fresh.erase z) ∨ g.Backward (fresh.erase z) order x := by
  constructor
  · rintro ⟨before, y, after, he, hxy, hx, hb, hne⟩
    cases before with
    | nil =>
      obtain ⟨rfl, rfl⟩ := List.cons.inj he
      exact .inl ⟨hxy, hf.mem_erase_iff.2 ⟨hne, hx⟩⟩
    | cons c before =>
      obtain ⟨rfl, rfl⟩ := List.cons.inj he
      rw [List.mem_cons, not_or] at hb
      obtain ⟨hxz, hb⟩ := hb
      exact .inr ⟨before, y, after, rfl, hxy, hf.mem_erase_iff.2 ⟨hxz, hx⟩, hb, hne⟩
  · rintro (⟨hxz, hx⟩ | ⟨before, y, after, rfl, hxy, hx, hb, hne⟩)
    · obtain ⟨hne, hx⟩ := hf.mem_erase_iff.1 hx
      exact ⟨[], z, order, rfl, hxz, hx, List.not_mem_nil, hne⟩
    · obtain ⟨hxz, hx⟩ := hf.mem_erase_iff.1 hx
      exact ⟨z :: before, y, after, rfl, hxy, hx, by simp [hxz, hb], hne⟩

/-- The second pass names the origin of an edge that leads backward, if there is one. -/
theorem second?_backward {fresh order : List α} (hf : fresh.Nodup) (ho : order.Nodup)
    (hsub : ∀ x ∈ order, x ∈ fresh) :
    (∀ x, g.second? fresh order = some x → g.Backward fresh order x) ∧
      (g.second? fresh order = none → ∀ x, ¬ g.Backward fresh order x) := by
  induction order generalizing fresh with
  | nil =>
    refine ⟨fun x h => by simp [second?] at h, fun _ x hb => ?_⟩
    obtain ⟨before, y, after, he, -⟩ := hb
    simp at he
  | cons z order ih =>
    have hz : z ∈ fresh := hsub z List.mem_cons_self
    obtain ⟨hzo, ho⟩ := List.nodup_cons.1 ho
    have hrest : ∀ x ∈ order, x ∈ fresh.erase z := fun x hx =>
      hf.mem_erase_iff.2 ⟨fun he => hzo (he ▸ hx), hsub x (List.mem_cons_of_mem _ hx)⟩
    have hpush : ∀ x, x ∈ push (fresh.erase z) (g.predecessors z) [] ↔
        g.Edge x z ∧ x ∈ fresh.erase z := by simp [mem_push]
    obtain ⟨hsome, hnone⟩ := ih (hf.erase z) ho hrest
    rw [second?_cons hz]
    constructor
    · intro x h
      rw [backward_cons hf]
      rcases Option.or_eq_some_iff.1 h with h | ⟨-, h⟩
      · exact .inl ((hpush x).1 (List.mem_of_mem_head? h))
      · exact .inr (hsome x h)
    · intro h x
      obtain ⟨hhead, h⟩ := Option.or_eq_none_iff.1 h
      rw [List.head?_eq_none_iff] at hhead
      rw [backward_cons hf, ← hpush, hhead]
      rintro (hx | hx)
      · cases hx
      · exact hnone h x hx

/-! ## Both passes -/

theorem toposort_ok {order : List α} (hg : g.WellFormed) (h : g.toposort = .ok order) :
    order.Perm g.nodes ∧ g.Forward order := by
  unfold toposort at h
  split at h
  · cases h
  · next order' hrun =>
    split at h
    · cases h
    · next hsecond =>
      cases h
      obtain ⟨fresh, hi⟩ := Walk.run_ok hg (Walk.inv_init hg) hrun
      have hperm := hi.perm hg
      have hno := (second?_backward hg.nodup hi.finished_nodup fun x hx => hperm.mem_iff.1 hx).2 hsecond
      refine ⟨hperm, fun before y after he x hxy => ?_⟩
      by_contra hx
      refine hno x ⟨before, y, after, he, hxy, (hg.joins hxy).1, hx, ?_⟩
      rintro rfl
      exact hi.loopless hg x hxy

theorem toposort_error {x : α} (hg : g.WellFormed) (h : g.toposort = .error x) :
    g.OnCycle x := by
  unfold toposort at h
  split at h
  · next hrun => cases h; exact .single (Walk.run_error hrun)
  · next order hrun =>
    split at h
    · next hsecond =>
      cases h
      obtain ⟨fresh, hi⟩ := Walk.run_ok hg (Walk.inv_init hg) hrun
      have hperm := hi.perm hg
      obtain ⟨before, y, after, rfl, hxy, hx, hb, hne⟩ :=
        (second?_backward hg.nodup hi.finished_nodup fun x hx => hperm.mem_iff.1 hx).1 _ hsecond
      -- the origin `x` of the edge finished before its end `y`
      have hxa : x ∈ after := by simpa [hb, hne] using hperm.mem_iff.2 hx
      obtain ⟨later, earlier, rfl⟩ := List.append_of_mem hxa
      have hy : y ∉ earlier := by
        intro hy
        have := hi.finished_nodup
        simp [List.nodup_append, List.nodup_cons, hy] at this
      have hyx : ReflTransGen g.Edge y x :=
        (hi.settled (before ++ y :: later) x earlier (by simp) y hxy).resolve_left hy
      exact TransGen.head' hxy hyx
    · cases h

/-- The place of a node in the order grows along every edge. -/
theorem Forward.idxOf_lt {order : List α} (hf : g.Forward order) {x y : α} (hy : y ∈ order)
    (hxy : g.Edge x y) : order.idxOf x < order.idxOf y := by
  obtain ⟨before, after, rfl, hyb⟩ := List.eq_append_cons_of_mem hy
  have hx : x ∈ before := hf before y after rfl x hxy
  rw [List.idxOf_append_of_mem hx, List.idxOf_append_of_notMem hyb, List.idxOf_cons_self]
  have := List.idxOf_lt_length_of_mem hx
  omega

theorem Forward.acyclic {order : List α} (hg : g.WellFormed) (hperm : order.Perm g.nodes)
    (hf : g.Forward order) (x : α) : ¬ g.OnCycle x := by
  have hedge : ∀ {y z}, g.Edge y z → order.idxOf y < order.idxOf z := fun h =>
    hf.idxOf_lt (hperm.mem_iff.2 (hg.joins h).2) h
  have hpath : ∀ {y}, TransGen g.Edge x y → order.idxOf x < order.idxOf y := by
    intro y h
    induction h with
    | single h => exact hedge h
    | tail _ h ih => exact Nat.lt_trans ih (hedge h)
  exact fun h => Nat.lt_irrefl _ (hpath h)

/-- The sort fails exactly if some node is on a cycle. -/
theorem toposort_error_iff (hg : g.WellFormed) :
    (∃ x, g.toposort = .error x) ↔ ∃ x, g.OnCycle x := by
  constructor
  · rintro ⟨x, h⟩
    exact ⟨x, toposort_error hg h⟩
  · rintro ⟨x, hc⟩
    cases h : g.toposort with
    | error y => exact ⟨y, rfl⟩
    | ok order =>
      obtain ⟨hperm, hf⟩ := toposort_ok hg h
      exact absurd hc (hf.acyclic hg hperm x)

end Builtins.Digraph
