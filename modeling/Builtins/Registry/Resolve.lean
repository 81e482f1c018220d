import Builtins.Digraph
import Builtins.Registry

/-!
# Resolving requests

A request is a list of names. It resolves to the builtins that it needs, directly or through links,
ordered so that a builtin comes after everything it links to.

* `Frontier` is the search for what a request needs; a name that is not registered ends it.
* `linkGraph` has an edge from every link to the builtin that has it. The order of a request is the
  order that `Digraph.toposort` finds for it.
-/
namespace Builtins.Registry

/-! ## What a request needs -/

/-- A search under way: the names still to be looked at, the next one first, and the names seen so
far, the latest first. -/
structure Frontier where
  pending : List String
  seen : List String
  deriving DecidableEq, Repr

namespace Frontier

/-- Looks at the next pending name, if there is one. The links of a builtin that is new become
pending, the last of them to be looked at next. -/
def step (r : Registry) : Frontier → Except Fault (Option Frontier)
  | ⟨[], _⟩ => .ok none
  | ⟨name :: pending, seen⟩ =>
    match r.get name with
    | .error fault => .error fault
    | .ok b =>
      if name ∈ seen then .ok (some ⟨pending, seen⟩)
      else .ok (some ⟨b.links.reverse ++ pending, name :: seen⟩)

/-- The number of entries that have not been seen. -/
def missing (r : Registry) (seen : List String) : Nat := r.names.countP (· ∉ seen)

theorem missing_lt {r : Registry} {seen : List String} {name : String} {b : Builtin}
    (h : r.get name = .ok b) (new : name ∉ seen) : missing r (name :: seen) < missing r seen := by
  have hname : name ∈ r.names := List.mem_map.2 ⟨_, mem_of_find? (get_ok.1 h), rfl⟩
  have hleft : missing r (name :: seen) = ((r.names.filter (· ∉ seen)).filter (· ≠ name)).length := by
    rw [missing, List.countP_eq_length_filter, List.filter_filter]
    simp
  rw [hleft, missing, List.countP_eq_length_filter, List.length_filter_lt_length_iff_exists]
  exact ⟨name, List.mem_filter.2 ⟨hname, by simpa using new⟩, by simp⟩

/-- Every step either sees a new name or leaves fewer names pending. -/
theorem step_decreases {r : Registry} {f g : Frontier} (h : step r f = .ok (some g)) :
    Prod.Lex (· < ·) (· < ·) (missing r g.seen, g.pending.length)
      (missing r f.seen, f.pending.length) := by
  unfold step at h
  split at h
  · cases h
  · split at h
    · cases h
    · next b hb =>
      split at h
      · cases h
        exact Prod.Lex.right _ (Nat.lt_succ_self _)
      · next hn =>
        cases h
        exact Prod.Lex.left _ _ (missing_lt hb hn)

/-- Looks at pending names until none is left, and gives what was seen. -/
def drain (r : Registry) (f : Frontier) : Except Fault (List String) :=
  match _h : step r f with
  | .error fault => .error fault
  | .ok none => .ok f.seen
  | .ok (some g) => drain r g
termination_by (missing r f.seen, f.pending.length)
decreasing_by exact step_decreases _h

end Frontier

/-- The names that a request needs, in their order. -/
def closure (r : Registry) (request : List String) : Except Fault (List String) :=
  match Frontier.drain r ⟨request.reverse, []⟩ with
  | .error fault => .error fault
  | .ok seen => .ok (r.names.filter (· ∈ seen))

/-! ## The order of the links -/

/-- The links of the builtin of this name. -/
def linksOf (r : Registry) (name : String) : List String := (r.find? name).elim [] (·.links)

/-- The given names, with an edge from every link of theirs to the name that has it. -/
def linkGraph (r : Registry) (names : List String) : Digraph String :=
  ⟨names, names.flatMap fun name => (r.linksOf name).map (·, name)⟩

/-- The builtins that a request needs, each after those it links to. -/
def resolve (r : Registry) (request : List String) : Except Fault (List Builtin) :=
  match r.closure request with
  | .error fault => .error fault
  | .ok names =>
    match (r.linkGraph names).toposort with
    | .error name => .error (.linkCycle name)
    | .ok order => .ok (order.filterMap r.find?)

/-! ## Headers -/

/-- Puts a name into an ordered list of distinct names. -/
def insertName (name : String) : List String → List String
  | [] => [name]
  | n :: ns =>
    if n = name then n :: ns
    else if precedes name n then name :: n :: ns
    else n :: insertName name ns

/-- The distinct headers that a request needs, in byte order. -/
def headers (r : Registry) (request : List String) : Except Fault (List String) :=
  match r.resolve request with
  | .error fault => .error fault
  | .ok bs => .ok ((bs.flatMap (·.headers)).foldr insertName [])

end Builtins.Registry
