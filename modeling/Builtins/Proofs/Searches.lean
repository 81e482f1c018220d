import Builtins.Proofs.Resolve
import Mathlib

/-!
# The turns of a search

How long the search for what a request needs goes on. A turn takes one pending name away and can add
many, and a name can come up again and again, so neither the pending names nor the seen ones tell how
far a search has come. But links become pending only when their builtin is seen for the first time:
the turns so far and the names that are still pending are together as many as the names of the request
and the links of what has been seen.

* `tally_after`: this account, at every turn.
* `exists_ends`: every search ends.
* `opened_once`: no builtin has its links made pending twice.
* `search_counts_links`: how the search ends, after how many turns, and what holds on the way.
-/
namespace Builtins.Registry

variable {r : Registry} {request : List String}

/-- The number of links of some builtins, given by their names. -/
def linkCount (r : Registry) (names : List String) : Nat :=
  (names.map fun name => (r.linksOf name).length).sum

theorem linksOf_of_find? {name : String} {b : Builtin} (h : r.find? name = some b) :
    r.linksOf name = b.links := by
  rw [linksOf, h]
  rfl

theorem linkCount_cons {name : String} {b : Builtin} (h : r.find? name = some b) (names : List String) :
    r.linkCount (name :: names) = b.links.length + r.linkCount names := by
  rw [linkCount, List.map_cons, List.sum_cons, linksOf_of_find? h]
  rfl

theorem linkCount_perm {ns ms : List String} (h : ns.Perm ms) : r.linkCount ns = r.linkCount ms :=
  (h.map _).sum_eq

theorem linkCount_le {ns ms : List String} (h : ns.Subperm ms) : r.linkCount ns ≤ r.linkCount ms := by
  obtain ⟨ls, hperm, hsub⟩ := h
  rw [← linkCount_perm hperm]
  exact (hsub.map _).sum_le_sum fun _ _ => Nat.zero_le _

namespace Frontier

/-! ## Turns -/

/-- The search for what a request needs, before its first turn. -/
def start (request : List String) : Frontier := ⟨request.reverse, []⟩

/-- The frontier after one more turn. There is none if no name is pending or the next one is not
registered. -/
def next? (r : Registry) (f : Frontier) : Option Frontier :=
  match step r f with
  | .ok g => g
  | .error _ => none

/-- The frontier after `n` turns, if the search gets that far. -/
def after (r : Registry) (f : Frontier) : Nat → Option Frontier
  | 0 => some f
  | n + 1 => (after r f n).bind (next? r)

/-- The builtin whose links the next turn makes pending: the one with the next pending name, unless
this name has been seen. -/
def opened? (r : Registry) : Frontier → Option Builtin
  | ⟨[], _⟩ => none
  | ⟨name :: _, seen⟩ => if name ∈ seen then none else r.find? name

/-- A search ends at a frontier after `n` turns and not before. -/
structure Ends (r : Registry) (request : List String) (n : Nat) (f : Frontier) : Prop where
  reached : after r (start request) n = some f
  last : next? r f = none

theorem next?_eq_some_iff {f g : Frontier} : next? r f = some g ↔ step r f = .ok (some g) := by
  unfold next?
  split <;> simp_all

theorem next?_eq_none {f : Frontier} (h : next? r f = none) :
    step r f = .ok none ∨ ∃ fault, step r f = .error fault := by
  unfold next? at h
  split at h <;> simp_all

theorem after_succ {f g : Frontier} {n : Nat} (h : after r f n = some g) :
    after r f (n + 1) = next? r g := by
  rw [after, h, Option.bind_some]

/-- What holds at the start and is kept by every turn holds after every turn. -/
theorem after_induction {P : Nat → Frontier → Prop} {f : Frontier} (h0 : P 0 f)
    (hstep : ∀ n g g', step r g = .ok (some g') → P n g → P (n + 1) g') {n : Nat} {g : Frontier}
    (h : after r f n = some g) : P n g := by
  induction n generalizing g with
  | zero =>
    cases h
    exact h0
  | succ n ih =>
    obtain ⟨g', hg', hnext⟩ := Option.bind_eq_some_iff.1 h
    exact hstep n g' g (next?_eq_some_iff.1 hnext) (ih hg')

/-! ## The account -/

/-- Where a search stands after `n` turns. -/
structure Tally (r : Registry) (request : List String) (n : Nat) (f : Frontier) : Prop where
  inv : Inv r request f
  distinct : f.seen.Nodup
  count : n + f.pending.length = request.length + r.linkCount f.seen

theorem tally_start : Tally r request 0 (start request) where
  inv := inv_init
  distinct := .nil
  count := by simp [start, linkCount]

theorem tally_step {n : Nat} {f g : Frontier} (h : Step r f g) (ht : Tally r request n f) :
    Tally r request (n + 1) g := by
  have hcount := ht.count
  refine ⟨inv_step h ht.inv, ?_, ?_⟩
  · cases h with
    | skip hb hs => exact ht.distinct
    | visit hb hs => exact List.nodup_cons.2 ⟨hs, ht.distinct⟩
  · cases h with
    | skip hb hs =>
      simp only [List.length_cons] at hcount ⊢
      omega
    | visit hb hs =>
      simp only [List.length_cons, List.length_append, List.length_reverse, linkCount_cons hb]
        at hcount ⊢
      omega

theorem tally_after {n : Nat} {f : Frontier} (h : after r (start request) n = some f) :
    Tally r request n f :=
  after_induction tally_start (fun _ _ _ hs ht => tally_step (step_some hs) ht) h

/-- No search takes more turns than there are names in the request and links in the registry. -/
theorem Tally.le {n : Nat} {f : Frontier} (ht : Tally r request n f) :
    n + f.pending.length ≤ request.length + r.linkCount r.names := by
  have hsub : f.seen ⊆ r.names := fun name hn => mem_names_iff.2 (ht.inv.registered name hn)
  have hle := linkCount_le (r := r) (ht.distinct.subperm hsub)
  have hcount := ht.count
  omega

/-! ## The end -/

theorem exists_ends (r : Registry) (request : List String) : ∃ n f, Ends r request n f := by
  have hnone : ∃ n, after r (start request) n = none := by
    refine ⟨request.length + r.linkCount r.names + 1, ?_⟩
    refine Option.eq_none_iff_forall_ne_some.2 fun f hf => ?_
    have hle := (tally_after hf).le
    omega
  -- the last turn is the one before the first that does not take place
  cases hn : Nat.find hnone with
  | zero =>
    have hzero := Nat.find_spec hnone
    rw [hn] at hzero
    cases hzero
  | succ n =>
    obtain ⟨f, hf⟩ := Option.ne_none_iff_exists'.1 (Nat.find_min hnone (show n < _ by omega))
    refine ⟨n, f, hf, ?_⟩
    rw [← after_succ hf, ← hn]
    exact Nat.find_spec hnone

theorem drain_after {n : Nat} {f g : Frontier} (h : after r f n = some g) : drain r f = drain r g :=
  after_induction (P := fun _ g => drain r f = drain r g) rfl
    (fun _ _ _ hs hd => hd.trans (drain_of_some hs)) h

/-- What a search gives at the frontier where it ends. -/
inductive Gives (r : Registry) (f : Frontier) : Except Fault (List String) → Prop where
  | found (h : f.pending = []) : Gives r f (.ok (r.names.filter (· ∈ f.seen)))
  | unknown {name rest} (hp : f.pending = name :: rest) (hn : r.find? name = none) :
    Gives r f (.error (.unknownBuiltin name))

theorem Ends.gives {n : Nat} {f : Frontier} (h : Ends r request n f) :
    Gives r f (r.closure request) := by
  have hdrain : drain r ⟨request.reverse, []⟩ = drain r f := drain_after h.reached
  rw [closure, hdrain]
  rcases next?_eq_none h.last with hs | ⟨fault, hs⟩
  · rw [drain_of_none hs]
    exact .found (step_none hs)
  · obtain ⟨name, rest, hpending, rfl, hname⟩ := step_error hs
    rw [drain_of_error hs]
    exact .unknown hpending hname

theorem Ends.count_of_ok {n : Nat} {f : Frontier} {names : List String} (h : Ends r request n f)
    (hc : r.closure request = .ok names) :
    n = request.length + r.linkCount names ∧ f.pending = [] ∧ f.seen.Perm names := by
  have ht := tally_after h.reached
  have hnodup := closure_nodup hc
  have hgives := h.gives
  rw [hc] at hgives
  cases hgives with
  | found hpending =>
    have hperm : f.seen.Perm (r.names.filter (· ∈ f.seen)) := by
      refine (List.perm_ext_iff_of_nodup ht.distinct hnodup).2 fun name => ?_
      simpa [mem_names_iff] using ht.inv.registered name
    have hcount := ht.count
    rw [hpending, linkCount_perm hperm] at hcount
    exact ⟨by simpa using hcount, hpending, hperm⟩

/-! ## Links that become pending -/

/-- The builtin that is opened is registered under the next pending name, which is new. -/
theorem opened?_eq_some {f : Frontier} {b : Builtin} (h : opened? r f = some b) :
    ∃ rest, f = ⟨b.name :: rest, f.seen⟩ ∧ b.name ∉ f.seen ∧ r.find? b.name = some b := by
  obtain ⟨_ | ⟨name, rest⟩, seen⟩ := f
  · cases h
  · simp only [opened?] at h
    split at h
    · cases h
    · next hs =>
      obtain rfl := name_of_find? h
      exact ⟨rest, rfl, hs, h⟩

/-- A turn takes the first pending name away and makes the links of the builtin that it opens pending;
if it opens none, then nothing. -/
theorem step_moves {f g : Frontier} (h : Step r f g) :
    ∃ name rest, f.pending = name :: rest ∧
      g.pending = ((opened? r f).elim [] (·.links)).reverse ++ rest ∧
      g.seen = ((opened? r f).map (·.name)).toList ++ f.seen := by
  cases h with
  | @skip name pending seen b hb hs => exact ⟨name, pending, rfl, by simp [opened?, hs]⟩
  | @visit name pending seen b hb hs =>
    exact ⟨name, pending, rfl, by simp [opened?, hs, hb, name_of_find? hb]⟩

theorem next?_of_opened {f : Frontier} {b : Builtin} (h : opened? r f = some b) :
    ∃ g, next? r f = some g ∧ b.name ∈ g.seen := by
  obtain ⟨rest, hf, hs, hb⟩ := opened?_eq_some h
  refine ⟨⟨b.links.reverse ++ rest, b.name :: f.seen⟩, ?_, List.mem_cons_self⟩
  rw [next?_eq_some_iff, hf]
  simp [step, get_ok.2 hb, hs]

/-- What has been seen stays so. -/
theorem seen_mono {f g g' : Frontier} {m n : Nat} (hle : m ≤ n) (hm : after r f m = some g)
    (hn : after r f n = some g') : g.seen ⊆ g'.seen := by
  induction n, hle using Nat.le_induction generalizing g' with
  | base =>
    rw [hm] at hn
    cases hn
    exact List.Subset.refl _
  | succ n hle ih =>
    obtain ⟨g₁, hg₁, hnext⟩ := Option.bind_eq_some_iff.1 hn
    obtain ⟨-, -, -, -, hseen⟩ := step_moves (step_some (next?_eq_some_iff.1 hnext))
    rw [hseen]
    exact fun name hname => List.mem_append_right _ (ih hg₁ hname)

theorem not_opened_later {f g g' : Frontier} {b : Builtin} {m n : Nat} (hlt : m < n)
    (hm : after r f m = some g) (hn : after r f n = some g') (h : opened? r g = some b) :
    opened? r g' ≠ some b := by
  intro h'
  obtain ⟨g₁, hnext, hmem⟩ := next?_of_opened h
  obtain ⟨-, -, hnew, -⟩ := opened?_eq_some h'
  exact hnew (seen_mono hlt ((after_succ hm).trans hnext) hn hmem)

theorem opened_once {f g g' : Frontier} {b : Builtin} {m n : Nat} (hm : after r f m = some g)
    (hn : after r f n = some g') (h : opened? r g = some b) (h' : opened? r g' = some b) : m = n := by
  rcases Nat.lt_trichotomy m n with hlt | heq | hlt
  · exact absurd h' (not_opened_later hlt hm hn h)
  · exact heq
  · exact absurd h (not_opened_later hlt hn hm h')

end Frontier

open Frontier

/-- The search for what a request needs, in any registry. It ends, after no more turns than there are
names in the request and links in the registry, and gives what the request needs or the next pending
name, which is not registered then. If it succeeds, the turns are as many as the names of the request
and the links of the builtins that it needs. Every turn takes one pending name away and makes the
links of at most one builtin pending, no builtin is opened at two turns, and the links of what has
been seen are seen or pending all the time. -/
theorem search_counts_links (r : Registry) (request : List String) :
    (∃ n f, Ends r request n f ∧ Gives r f (r.closure request) ∧
      n + f.pending.length ≤ request.length + r.linkCount r.names) ∧
    (∀ names, r.closure request = .ok names →
      ∃ f, Ends r request (request.length + r.linkCount names) f ∧ f.pending = [] ∧
        f.seen.Perm names) ∧
    (∀ b, {n | ∃ f, after r (start request) n = some f ∧ opened? r f = some b}.Subsingleton) ∧
    ∀ n f, after r (start request) n = some f →
      (∀ name ∈ f.seen, ∀ link ∈ r.linksOf name, link ∈ f.seen ∨ link ∈ f.pending) ∧
      ∀ g, after r (start request) (n + 1) = some g → ∃ name rest, f.pending = name :: rest ∧
        g.pending = ((opened? r f).elim [] (·.links)).reverse ++ rest := by
  obtain ⟨n, f, hends⟩ := exists_ends r request
  refine ⟨⟨n, f, hends, hends.gives, (tally_after hends.reached).le⟩, fun names hnames => ?_,
    fun b m hm k hk => ?_, fun m g hg => ⟨fun name hname link hlink => ?_, fun g' hg' => ?_⟩⟩
  · obtain ⟨rfl, hpending, hperm⟩ := hends.count_of_ok hnames
    exact ⟨f, hends, hpending, hperm⟩
  · obtain ⟨g, hg, hopened⟩ := hm
    obtain ⟨g', hg', hopened'⟩ := hk
    exact opened_once hg hg' hopened hopened'
  · obtain ⟨b, hb, hl⟩ := mem_linksOf.1 hlink
    exact (tally_after hg).inv.linked name hname b hb link hl
  · rw [after_succ hg, next?_eq_some_iff] at hg'
    obtain ⟨name, rest, hpending, hpushed, -⟩ := step_moves (step_some hg')
    exact ⟨name, rest, hpending, hpushed⟩

/-- A cycle with a builtin that links to itself and twice to the other one, and a request that names
one of them twice; what links to nothing registered is not needed. -/
theorem search_counts_links_cycle :
    let r := ofList [{ name := "a", links := ["b", "b", "a"] }, { name := "b", links := ["a"] },
      { name := "c", links := ["lost"] }]
    let request := ["a", "b", "a"]
    r.closure request = .ok ["a", "b"] ∧
      (∃ f, Ends r request 7 f ∧ f.pending = [] ∧ f.seen.Perm ["a", "b"]) ∧
      after r (start request) 1 = some ⟨["a", "b", "b", "b", "a"], ["a"]⟩ ∧
      ∀ link ∈ r.linksOf "a", link ∈ ["a"] ∨ link ∈ ["a", "b", "b", "b", "a"] := by
  intro r request
  obtain ⟨-, hok, -, hturn⟩ := search_counts_links r request
  have hclosure : r.closure request = .ok ["a", "b"] := by cbv
  have hafter : after r (start request) 1 = some ⟨["a", "b", "b", "b", "a"], ["a"]⟩ := by cbv
  refine ⟨hclosure, ?_, hafter, (hturn 1 _ hafter).1 "a" (by decide)⟩
  have hcount : request.length + r.linkCount ["a", "b"] = 7 := by cbv
  rw [← hcount]
  exact hok _ hclosure

end Builtins.Registry
