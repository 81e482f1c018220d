import Builtins.Proofs.Requests

/-!
# Requests put together

A request that is put together from two needs what either of them needs and nothing else. Links that
start from a needed name stay among the needed ones, so a cycle that a request runs into lies wholly
within its needs, and putting two requests together closes no new one.

* `needs_append`, `onLinkCycle_append`: needs and cycles of two requests together.
* `mem_resolved_iff`: a request resolves to the entries under the names that it needs.
* `headers_of_resolved`: the headers of a request are those of its builtins, in order.
* `resolve_append`: two requests together resolve if and only if both of them do, and to the builtins
  and headers of both.
-/
namespace Builtins.Registry

open Relation

variable {r : Registry} {request first second : List String}

/-! ## What two requests need -/

theorem needs_append {name : String} :
    r.Needs (first ++ second) name ↔ r.Needs first name ∨ r.Needs second name := by
  constructor
  · intro h
    refine h.least (S := fun n => r.Needs first n ∨ r.Needs second n) (fun n hn => ?_)
      fun n hn b hb link hl => ?_
    · exact (List.mem_append.1 hn).imp .requested .requested
    · exact hn.imp (·.linked hb hl) (·.linked hb hl)
  · rintro (hn | hn)
    · exact needs_of_needs (fun n hn => .requested (List.mem_append_left _ hn)) hn
    · exact needs_of_needs (fun n hn => .requested (List.mem_append_right _ hn)) hn

theorem complete_append :
    r.Complete (first ++ second) ↔ r.Complete first ∧ r.Complete second := by
  constructor
  · intro hall
    exact ⟨fun n hn => hall n (needs_append.2 (.inl hn)), fun n hn => hall n (needs_append.2 (.inr hn))⟩
  · rintro ⟨hfirst, hsecond⟩ n hn
    exact (needs_append.1 hn).elim (hfirst n) (hsecond n)

/-- One name links to another, whether they are needed or not. -/
def Links (r : Registry) (a b : String) : Prop := ∃ c, r.find? a = some c ∧ b ∈ c.links

/-- From a needed name, links lead to needed names only. -/
theorem path_within {a b : String} (ha : r.Needs request a) (h : TransGen r.Links a b) :
    TransGen (r.LinksWithin request) a b ∧ r.Needs request b := by
  induction h with
  | single hl =>
    obtain ⟨c, hc, hl⟩ := hl
    have hb := ha.linked hc hl
    exact ⟨.single ⟨ha, hb, c, hc, hl⟩, hb⟩
  | tail _ hl ih =>
    obtain ⟨hpath, hneeds⟩ := ih
    obtain ⟨c, hc, hl⟩ := hl
    have hb := hneeds.linked hc hl
    exact ⟨hpath.tail ⟨hneeds, hb, c, hc, hl⟩, hb⟩

/-- The request matters to a cycle only in that it needs a name on it. -/
theorem onLinkCycle_iff {name : String} :
    r.OnLinkCycle request name ↔ r.Needs request name ∧ TransGen r.Links name name := by
  constructor
  · intro h
    obtain ⟨_, hfirst, -⟩ := TransGen.head'_iff.1 h
    have hlinks : r.LinksWithin request ≤ r.Links := fun _ _ hl => hl.2.2
    exact ⟨hfirst.1, TransGen.mono hlinks _ _ h⟩
  · rintro ⟨hneeds, hcycle⟩
    exact (path_within hneeds hcycle).1

theorem onLinkCycle_append {name : String} :
    r.OnLinkCycle (first ++ second) name ↔
      r.OnLinkCycle first name ∨ r.OnLinkCycle second name := by
  simp only [onLinkCycle_iff, needs_append, or_and_right]

/-! ## What they resolve to -/

theorem resolve_append_isOk :
    (∃ bs, r.resolve (first ++ second) = .ok bs) ↔
      (∃ bs, r.resolve first = .ok bs) ∧ ∃ bs, r.resolve second = .ok bs := by
  simp only [resolve_isOk_iff, complete_append, onLinkCycle_append, exists_or, not_or]
  constructor
  · rintro ⟨⟨hfirst, hsecond⟩, hno, hno'⟩
    exact ⟨⟨hfirst, hno⟩, hsecond, hno'⟩
  · rintro ⟨⟨hfirst, hno⟩, hsecond, hno'⟩
    exact ⟨⟨hfirst, hsecond⟩, hno, hno'⟩

/-- What a request resolves to are the entries under the names that it needs. -/
theorem mem_resolved_iff {bs : List Builtin} (h : r.resolve request = .ok bs) {b : Builtin} :
    b ∈ bs ↔ r.Needs request b.name ∧ r.find? b.name = some b := by
  obtain ⟨names, hc, hperm, -, hfind⟩ := resolve_ok h
  obtain ⟨hmem, -⟩ := closure_ok hc
  constructor
  · intro hb
    exact ⟨(hmem _).1 (hperm.mem_iff.1 (List.mem_map_of_mem hb)), hfind b hb⟩
  · rintro ⟨hneeds, hb⟩
    obtain ⟨c, hc, hname⟩ := List.mem_map.1 (hperm.mem_iff.2 ((hmem _).2 hneeds))
    have hcb : some c = some b := by rw [← hfind c hc, hname, hb]
    rwa [← Option.some.inj hcb]

theorem mem_resolved_append {bs cs ds : List Builtin} (hfirst : r.resolve first = .ok bs)
    (hsecond : r.resolve second = .ok cs) (h : r.resolve (first ++ second) = .ok ds) (b : Builtin) :
    b ∈ ds ↔ b ∈ bs ∨ b ∈ cs := by
  rw [mem_resolved_iff h, mem_resolved_iff hfirst, mem_resolved_iff hsecond, needs_append, or_and_right]

/-! ## Headers -/

theorem mem_insertName {name x : String} {names : List String} :
    x ∈ insertName name names ↔ x = name ∨ x ∈ names := by
  induction names with
  | nil => simp [insertName]
  | cons n names ih =>
    rw [insertName]
    split
    · next he => simp [he]
    · split
      · exact List.mem_cons
      · rw [List.mem_cons, ih, List.mem_cons, or_left_comm]

theorem inByteOrder_insertName (name : String) {names : List String} (h : InByteOrder names) :
    InByteOrder (insertName name names) := by
  rw [inByteOrder_iff] at h ⊢
  induction names with
  | nil => exact List.pairwise_singleton _ _
  | cons n names ih =>
    obtain ⟨hn, hnames⟩ := List.pairwise_cons.1 h
    rw [insertName]
    split
    · exact h
    · next hne =>
      split
      · next hlt =>
        refine .cons (fun x hx => ?_) h
        rcases List.mem_cons.1 hx with rfl | hx
        · exact hlt
        · exact precedes_trans hlt (hn x hx)
      · next hlt =>
        refine .cons (fun x hx => ?_) (ih hnames)
        rcases mem_insertName.1 hx with rfl | hx
        · exact precedes_of_ne hne (by simpa using hlt)
        · exact hn x hx

theorem mem_insertNames {names : List String} {x : String} :
    x ∈ names.foldr insertName [] ↔ x ∈ names := by
  induction names with
  | nil => rfl
  | cons n names ih => rw [List.foldr_cons, mem_insertName, ih, List.mem_cons]

theorem inByteOrder_insertNames (names : List String) :
    InByteOrder (names.foldr insertName []) := by
  induction names with
  | nil => exact .nil
  | cons n names ih => exact inByteOrder_insertName n ih

/-- Headers fail as the request fails. -/
theorem headers_error_iff {fault : Fault} :
    r.headers request = .error fault ↔ r.resolve request = .error fault := by
  unfold headers
  cases r.resolve request <;> simp

theorem headers_of_resolved {bs : List Builtin} (h : r.resolve request = .ok bs) :
    ∃ hs, r.headers request = .ok hs ∧ InByteOrder hs ∧ ∀ x, x ∈ hs ↔ ∃ b ∈ bs, x ∈ b.headers := by
  refine ⟨(bs.flatMap (·.headers)).foldr insertName [], ?_, inByteOrder_insertNames _, fun x => ?_⟩
  · rw [headers, h]
  · rw [mem_insertNames, List.mem_flatMap]

/-- The headers of a request are in byte order, and they are the headers of what it needs. -/
theorem headers_ok {hs : List String} (h : r.headers request = .ok hs) :
    InByteOrder hs ∧
      ∀ x, x ∈ hs ↔ ∃ name b, r.Needs request name ∧ r.find? name = some b ∧ x ∈ b.headers := by
  cases hr : r.resolve request with
  | error fault =>
    rw [headers_error_iff.2 hr] at h
    cases h
  | ok bs =>
    obtain ⟨ks, hk, horder, hmem⟩ := headers_of_resolved hr
    obtain rfl := Except.ok.inj (hk.symm.trans h)
    refine ⟨horder, fun x => (hmem x).trans ⟨?_, ?_⟩⟩
    · rintro ⟨b, hb, hx⟩
      obtain ⟨hneeds, hfind⟩ := (mem_resolved_iff hr).1 hb
      exact ⟨b.name, b, hneeds, hfind, hx⟩
    · rintro ⟨name, b, hneeds, hfind, hx⟩
      obtain rfl := name_of_find? hfind
      exact ⟨b, (mem_resolved_iff hr).2 ⟨hneeds, hfind⟩, hx⟩

/-- Two requests put together resolve if and only if each of them does. They resolve to the builtins
of both, and their headers are the headers of both, each once and in byte order. The headers of any
request fail as the request does; otherwise they are the headers of what it needs. -/
theorem resolve_append (r : Registry) (first second : List String) :
    ((∃ bs, r.resolve (first ++ second) = .ok bs) ↔
        (∃ bs, r.resolve first = .ok bs) ∧ ∃ bs, r.resolve second = .ok bs) ∧
      (∀ bs cs, r.resolve first = .ok bs → r.resolve second = .ok cs →
        ∃ ds hs ks ls, r.resolve (first ++ second) = .ok ds ∧ (∀ b, b ∈ ds ↔ b ∈ bs ∨ b ∈ cs) ∧
          r.headers first = .ok hs ∧ r.headers second = .ok ks ∧
          r.headers (first ++ second) = .ok ls ∧
          InByteOrder ls ∧ ls.Nodup ∧ ∀ x, x ∈ ls ↔ x ∈ hs ∨ x ∈ ks) ∧
      ∀ request : List String,
        (∀ fault, r.headers request = .error fault ↔ r.resolve request = .error fault) ∧
          ∀ hs, r.headers request = .ok hs → InByteOrder hs ∧ hs.Nodup ∧
            ∀ x, x ∈ hs ↔ ∃ name b, r.Needs request name ∧ r.find? name = some b ∧ x ∈ b.headers := by
  refine ⟨resolve_append_isOk, fun bs cs hfirst hsecond => ?_, fun request => ?_⟩
  · obtain ⟨ds, h⟩ := resolve_append_isOk.2 ⟨⟨bs, hfirst⟩, ⟨cs, hsecond⟩⟩
    have hmem := mem_resolved_append hfirst hsecond h
    obtain ⟨hs, hh, -, hhs⟩ := headers_of_resolved hfirst
    obtain ⟨ks, hk, -, hks⟩ := headers_of_resolved hsecond
    obtain ⟨ls, hl, horder, hls⟩ := headers_of_resolved h
    refine ⟨ds, hs, ks, ls, h, hmem, hh, hk, hl, horder, horder.nodup, fun x => ?_⟩
    rw [hls, hhs, hks]
    simp only [hmem, or_and_right, exists_or]
  · refine ⟨fun fault => headers_error_iff, fun hs hh => ?_⟩
    obtain ⟨horder, hmem⟩ := headers_ok hh
    exact ⟨horder, horder.nodup, hmem⟩

/-- Two requests of the standard builtins that share a header. -/
theorem resolve_append_standard :
    ∃ bs cs ds hs ks ls, standard.resolve ["input"] = .ok bs ∧ standard.resolve ["pow", "str"] = .ok cs ∧
      standard.resolve ["input", "pow", "str"] = .ok ds ∧ (∀ b, b ∈ ds ↔ b ∈ bs ∨ b ∈ cs) ∧
      standard.headers ["input"] = .ok hs ∧ standard.headers ["pow", "str"] = .ok ks ∧
      standard.headers ["input", "pow", "str"] = .ok ls ∧ ls = ["cmath", "iostream", "utility"] ∧
      ∀ x, x ∈ ls ↔ x ∈ hs ∨ x ∈ ks := by
  have hfirst : standard.resolve ["input"] =
      .ok [{ name := "print", params := ["print_string"], headers := ["iostream"] },
        { name := "input", params := ["print_string"], headers := ["iostream", "utility"],
          links := ["print"] }] := by cbv
  have hsecond : standard.resolve ["pow", "str"] =
      .ok [{ name := "str", params := ["obj"], headers := ["iostream"] },
        { name := "pow", params := ["value", "exponent"], headers := ["cmath"] }] := by cbv
  have hheaders : standard.headers ["input", "pow", "str"] = .ok ["cmath", "iostream", "utility"] := by
    cbv
  obtain ⟨ds, hs, ks, ls, h, hmem, hh, hk, hl, -, -, hls⟩ :=
    (resolve_append standard ["input"] ["pow", "str"]).2.1 _ _ hfirst hsecond
  exact ⟨_, _, ds, hs, ks, ls, hfirst, hsecond, h, hmem, hh, hk, hl,
    Except.ok.inj (hl.symm.trans hheaders), hls⟩

end Builtins.Registry
