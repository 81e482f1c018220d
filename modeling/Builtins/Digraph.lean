/-!
# Directed graphs

A graph has nodes and edges, both in the order in which they were added; an edge can be there more
than once. `toposort` puts the nodes into an order in which all edges lead forward, or names a node
on a cycle.

* `Walk` is the first pass: a depth-first search along the edges from every node. The order is the
  reverse of the order in which the nodes are finished.
* `second?` is the second pass: a search against the edges from every node of that order. One that
  gets to a second node has found a cycle.

Both passes keep the nodes that they have not discovered, so a name that is no node counts as
discovered.
-/
namespace Builtins

structure Digraph (α : Type) where
  nodes : List α
  edges : List (α × α)
  deriving DecidableEq, Repr

namespace Digraph

variable {α : Type} [DecidableEq α]

/-- The ends of the edges that leave a node, the latest edge first. -/
def successors (g : Digraph α) (x : α) : List α :=
  ((g.edges.filter (·.1 = x)).map (·.2)).reverse

/-- The origins of the edges that enter a node, the latest edge first. -/
def predecessors (g : Digraph α) (x : α) : List α :=
  ((g.edges.filter (·.2 = x)).map (·.1)).reverse

/-- Puts those of `xs` that are in `fresh` on a stack, one after another. -/
def push (fresh xs stack : List α) : List α := (xs.filter (· ∈ fresh)).reverse ++ stack

/-! ## The first pass -/

/-- A depth-first search under way: the nodes from which it has still to start; what is to be
visited, the next one first; what has not been discovered; what is finished, the latest first. -/
structure Walk (α : Type) where
  roots : List α
  stack : List α
  fresh : List α
  finished : List α
  deriving DecidableEq, Repr

namespace Walk

/-- Visits the top of the stack. It is discovered first, with its successors put on the stack above
it, and finished when it comes to the top again; a copy of it further down does nothing then. An edge
from the node to itself ends the walk. With an empty stack the walk goes on from the next root. -/
def step (g : Digraph α) : Walk α → Except α (Option (Walk α))
  | ⟨[], [], _, _⟩ => .ok none
  | ⟨root :: roots, [], fresh, finished⟩ =>
    .ok (some ⟨roots, if root ∈ fresh then [root] else [], fresh, finished⟩)
  | ⟨roots, x :: stack, fresh, finished⟩ =>
    if x ∈ fresh then
      if x ∈ g.successors x then .error x
      else
        let rest := fresh.erase x
        .ok (some ⟨roots, push rest (g.successors x) (x :: stack), rest, finished⟩)
    else if x ∈ finished then .ok (some ⟨roots, stack, fresh, finished⟩)
    else .ok (some ⟨roots, stack, fresh, x :: finished⟩)

/-- How much is left to do: undiscovered nodes first, then roots and stack. -/
def work (w : Walk α) : Nat × Nat := (w.fresh.length, 2 * w.roots.length + w.stack.length)

/-- Every step either discovers a node or uses up a root or a place on the stack. -/
theorem step_decreases {g : Digraph α} {v w : Walk α} (h : step g v = .ok (some w)) :
    Prod.Lex (· < ·) (· < ·) w.work v.work := by
  unfold step at h
  split at h
  · cases h
  · cases h
    refine Prod.Lex.right _ ?_
    split <;> simp only [List.length_cons, List.length_nil] <;> omega
  · next roots x stack fresh finished =>
    split at h
    · next hx =>
      split at h
      · cases h
      · cases h
        refine Prod.Lex.left _ _ ?_
        have := List.length_pos_of_mem hx
        simp only [List.length_erase_of_mem hx]
        omega
    · split at h <;> cases h <;> exact Prod.Lex.right _ (Nat.lt_succ_self _)

/-- Walks until there is nothing left to visit, and gives what is finished, the latest first. -/
def run (g : Digraph α) (w : Walk α) : Except α (List α) :=
  match _h : step g w with
  | .error x => .error x
  | .ok none => .ok w.finished
  | .ok (some v) => run g v
termination_by w.work
decreasing_by exact step_decreases _h

end Walk

/-! ## The second pass -/

/-- Takes the stack down to the first node that has not been discovered and reports it, with its
predecessors put on the stack. The result holds the node, the stack and what is still undiscovered. -/
def report (g : Digraph α) (fresh : List α) : List α → Option (α × List α × List α)
  | [] => none
  | x :: stack =>
    if x ∈ fresh then
      let rest := fresh.erase x
      some (x, push rest (g.predecessors x) stack, rest)
    else report g fresh stack

/-- The second node that a search against the edges reports, starting from each of the given nodes
until there is one. -/
def second? (g : Digraph α) (fresh : List α) : List α → Option α
  | [] => none
  | x :: xs =>
    match g.report fresh [x] with
    | none => second? g fresh xs
    | some (_, stack, fresh) =>
      match g.report fresh stack with
      | some (y, _) => some y
      | none => second? g fresh xs

/-- The nodes, each after those with an edge to it, or a node on a cycle. -/
def toposort (g : Digraph α) : Except α (List α) :=
  match Walk.run g ⟨g.nodes, [], g.nodes, []⟩ with
  | .error x => .error x
  | .ok order =>
    match g.second? g.nodes order with
    | some x => .error x
    | none => .ok order

end Digraph

end Builtins
