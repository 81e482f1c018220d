import Builtins.Log.Settings
import Mathlib

/-!
# What a filter lets through

A filter is put together by adding directives one after another: those that the environment requests,
or else the level of the settings, and then the parts of the filter text. Of the directives for one
target only the last one stands, so a filter is determined by the standing directives, and their order
across targets does not matter.

* `Standing`, `Decides`: the directives that count, and the one that decides about a target.
* `mem_addAll`, `enables_iff`, `enables_congr`: a filter in terms of the standing directives.
* `Lists`, `filterParts_of_lists`: the parts of a filter text.
* `standing_directives_decide`: what the filter of a text made of directives lets through.
-/
namespace Builtins

/-! ## Parts of a text -/

namespace Text

theorem pieces_eq_splitOn {α : Type} [DecidableEq α] (separator : α) (cs : List α) :
    pieces separator cs = cs.splitOn separator := by
  induction cs with
  | nil => rfl
  | cons c cs ih =>
    rw [List.splitOn_cons_eq_if_modifyHead, pieces, ih]
    cases hrest : cs.splitOn separator with
    | nil => exact absurd hrest (List.splitOn_ne_nil separator cs)
    | cons p ps => simp only [beq_iff_eq, List.modifyHead_cons]

theorem not_mem_of_mem_pieces {α : Type} [DecidableEq α] {separator : α} {cs p : List α}
    (h : p ∈ pieces separator cs) : separator ∉ p := by
  induction cs generalizing p with
  | nil => simp_all [pieces]
  | cons c cs ih =>
    rw [pieces] at h
    cases hrest : pieces separator cs with
    | nil => exact absurd (pieces_eq_splitOn separator cs ▸ hrest) (List.splitOn_ne_nil separator cs)
    | cons q qs =>
      simp only [hrest] at h
      split at h
      · rcases List.mem_cons.1 h with rfl | hp
        · exact List.not_mem_nil
        · exact ih (hrest ▸ hp)
      · next hc =>
        rcases List.mem_cons.1 h with rfl | hp
        · exact List.not_mem_cons_of_ne_of_not_mem (Ne.symm hc) (ih (hrest ▸ List.mem_cons_self))
        · exact ih (hrest ▸ List.mem_cons_of_mem _ hp)

/-- Blanks around a text do not change what trimming leaves of it. -/
theorem trimmed_padded {left right : List Char} (hl : ∀ c ∈ left, isBlank c = true)
    (hr : ∀ c ∈ right, isBlank c = true) (cs : List Char) :
    trimmed (left ++ cs ++ right) = trimmed cs := by
  have hright : right.dropWhile isBlank = [] := List.dropWhile_eq_nil_iff.2 hr
  rw [trimmed, List.append_assoc, List.dropWhile_append_of_pos hl, List.dropWhile_append, hright]
  split
  · next hempty => rw [trimmed, List.isEmpty_iff.1 hempty]
  · rw [List.reverse_append, List.dropWhile_append_of_pos (by simpa using hr), trimmed]

theorem trimmed_blank {cs : List Char} (h : ∀ c ∈ cs, isBlank c = true) : trimmed cs = [] := by
  rw [trimmed, List.dropWhile_eq_nil_iff.2 h]
  rfl

end Text

namespace Log

variable {ds es : List Directive} {d e : Directive} {target : String} {level : Level}

/-! ## Standing directives -/

/-- `d` is among the directives, and none that comes after it has its target. -/
def Standing (ds : List Directive) (d : Directive) : Prop :=
  ∃ before after, ds = before ++ d :: after ∧ ∀ e ∈ after, e.target ≠ d.target

/-- Of the standing directives whose targets begin this one, `d` has the longest target. -/
structure Decides (ds : List Directive) (target : String) (d : Directive) : Prop where
  standing : Standing ds d
  begins : d.target.toList <+: target.toList
  longest : ∀ e, Standing ds e → e.target.toList <+: target.toList → e.target.length ≤ d.target.length

theorem not_standing_nil : ¬ Standing [] d := by
  rintro ⟨before, after, h, -⟩
  simp at h

theorem standing_append :
    Standing (ds ++ es) d ↔ Standing es d ∨ Standing ds d ∧ ∀ e ∈ es, e.target ≠ d.target := by
  constructor
  · rintro ⟨before, after, hsplit, hafter⟩
    rcases List.append_eq_append_iff.1 hsplit with ⟨mid, rfl, rfl⟩ | ⟨mid, rfl, hmid⟩
    · exact .inl ⟨mid, after, rfl, hafter⟩
    · cases mid with
      | nil => exact .inl ⟨[], after, hmid.symm, hafter⟩
      | cons c mid =>
        obtain ⟨rfl, rfl⟩ := List.cons.inj hmid
        exact .inr ⟨⟨before, mid, rfl, fun e he => hafter e (by simp [he])⟩,
          fun e he => hafter e (by simp [he])⟩
  · rintro (⟨before, after, rfl, hafter⟩ | ⟨⟨before, after, rfl, hafter⟩, hes⟩)
    · exact ⟨ds ++ before, after, by simp, hafter⟩
    · refine ⟨before, after ++ es, by simp, fun e he => ?_⟩
      exact (List.mem_append.1 he).elim (hafter e) (hes e)

theorem standing_singleton : Standing [e] d ↔ d = e := by
  constructor
  · rintro ⟨before, after, hsplit, -⟩
    rcases List.singleton_eq_append_iff.1 hsplit with ⟨rfl, h⟩ | ⟨-, h⟩
    · exact (List.cons.inj h).1
    · simp at h
  · rintro rfl
    exact ⟨[], [], rfl, by simp⟩

/-- One more directive takes the place of the one for its target. -/
theorem standing_concat : Standing (ds ++ [e]) d ↔ d = e ∨ Standing ds d ∧ d.target ≠ e.target := by
  rw [standing_append, standing_singleton, List.forall_mem_singleton, ne_comm]

/-- At most one directive stands for a target. -/
theorem Standing.unique (hd : Standing ds d) (he : Standing ds e) (h : d.target = e.target) : d = e := by
  induction ds using List.reverseRecOn with
  | nil => exact absurd hd not_standing_nil
  | append_singleton ds c ih =>
    rcases standing_concat.1 hd with rfl | ⟨hd, hdc⟩ <;> rcases standing_concat.1 he with rfl | ⟨he, hec⟩
    · rfl
    · exact absurd h.symm hec
    · exact absurd h hdc
    · exact ih hd he

theorem standing_swap (h : d.target ≠ e.target) (before after : List Directive) (c : Directive) :
    Standing (before ++ d :: e :: after) c ↔ Standing (before ++ e :: d :: after) c := by
  have hpair : Standing [d, e] c ↔ Standing [e, d] c := by
    rw [show [d, e] = [d] ++ [e] from rfl, show [e, d] = [e] ++ [d] from rfl, standing_concat,
      standing_concat, standing_singleton, standing_singleton]
    constructor
    · rintro (rfl | ⟨rfl, -⟩)
      · exact .inr ⟨rfl, h.symm⟩
      · exact .inl rfl
    · rintro (rfl | ⟨rfl, -⟩)
      · exact .inr ⟨rfl, h⟩
      · exact .inl rfl
  rw [show d :: e :: after = [d, e] ++ after from rfl, show e :: d :: after = [e, d] ++ after from rfl,
    standing_append, standing_append, standing_append, standing_append, hpair]
  simp only [List.forall_mem_append, List.forall_mem_cons]
  tauto

/-- Two directives with targets that begin the same target, and equally long ones, have one target. -/
theorem target_eq_of_begins (hd : d.target.toList <+: target.toList)
    (he : e.target.toList <+: target.toList) (h : d.target.length = e.target.length) :
    d.target = e.target := by
  have hlength : d.target.toList.length = e.target.toList.length := h
  exact String.toList_inj.1 ((List.prefix_of_prefix_length_le hd he hlength.le).eq_of_length hlength)

theorem Decides.unique (hd : Decides ds target d) (he : Decides ds target e) : d = e := by
  have hle := hd.longest e he.standing he.begins
  have hge := he.longest d hd.standing hd.begins
  exact hd.standing.unique he.standing (target_eq_of_begins hd.begins he.begins (by omega))

/-- The empty target is begun by the directive for all targets only. -/
theorem decides_empty : Decides ds "" d ↔ Standing ds d ∧ d.target = "" := by
  constructor
  · intro h
    exact ⟨h.standing, String.toList_inj.1 (List.prefix_nil.1 h.begins)⟩
  · rintro ⟨hstanding, htarget⟩
    refine ⟨hstanding, by simp [htarget], fun e _ he => ?_⟩
    have hempty : e.target = "" := String.toList_inj.1 (List.prefix_nil.1 he)
    rw [hempty, htarget]

/-! ## Filters -/

namespace Filter

theorem mem_add {f : Filter} :
    d ∈ (f.add e).directives ↔ d = e ∨ d ∈ f.directives ∧ d.target ≠ e.target := by
  simp [add]

theorem mem_addAll : d ∈ (nothing.addAll ds).directives ↔ Standing ds d := by
  induction ds using List.reverseRecOn generalizing d with
  | nil => simpa [addAll, nothing] using not_standing_nil
  | append_singleton ds e ih =>
    rw [addAll, List.foldl_append]
    exact mem_add.trans ((or_congr_right (and_congr_left' ih)).trans standing_concat.symm)

theorem longest_eq_none {xs : List Directive} : longest xs = none ↔ xs = [] := by
  cases xs with
  | nil => simp [longest]
  | cons x xs =>
    rw [longest]
    split
    · simp
    · split <;> simp

/-- No directive has a longer target than the one found. -/
theorem longest_of_some {xs : List Directive} (h : longest xs = some d) :
    d ∈ xs ∧ ∀ e ∈ xs, e.target.length ≤ d.target.length := by
  induction xs generalizing d with
  | nil => simp [longest] at h
  | cons x xs ih =>
    rw [longest] at h
    split at h
    · next hnone =>
      obtain rfl := Option.some.inj h
      rw [longest_eq_none.1 hnone]
      simp
    · next y hy =>
      obtain ⟨hmem, hmax⟩ := ih hy
      split at h
      · next hlt =>
        obtain rfl := Option.some.inj h
        exact ⟨List.mem_cons_of_mem _ hmem, List.forall_mem_cons.2 ⟨hlt.le, hmax⟩⟩
      · next hle =>
        obtain rfl := Option.some.inj h
        exact ⟨List.mem_cons_self,
          List.forall_mem_cons.2 ⟨le_rfl, fun e he => (hmax e he).trans (not_lt.1 hle)⟩⟩

theorem mem_covering :
    d ∈ (nothing.addAll ds).directives.filter (·.covers target) ↔
      Standing ds d ∧ d.target.toList <+: target.toList := by
  rw [List.mem_filter, mem_addAll, Directive.covers, List.isPrefixOf_iff_prefix]

theorem decisive?_eq_some_iff : (nothing.addAll ds).decisive? target = some d ↔ Decides ds target d := by
  have hfound : ∀ {c}, (nothing.addAll ds).decisive? target = some c → Decides ds target c := by
    intro c hc
    obtain ⟨hmem, hmax⟩ := longest_of_some hc
    obtain ⟨hstanding, hbegins⟩ := mem_covering.1 hmem
    exact ⟨hstanding, hbegins, fun e he hb => hmax e (mem_covering.2 ⟨he, hb⟩)⟩
  refine ⟨hfound, fun h => ?_⟩
  cases hd : (nothing.addAll ds).decisive? target with
  | none =>
    have hmem := mem_covering.2 ⟨h.standing, h.begins⟩
    rw [longest_eq_none.1 hd] at hmem
    cases hmem
  | some c => rw [(hfound hd).unique h]

theorem enables_iff :
    (nothing.addAll ds).enables target level = true ↔
      ∃ d, Decides ds target d ∧ d.limit.admits level = true := by
  simp only [enables, Option.any_eq_true, decisive?_eq_some_iff]

/-- What a filter lets through depends on the standing directives only. -/
theorem enables_congr (h : ∀ d, Standing ds d ↔ Standing es d) :
    (nothing.addAll ds).enables = (nothing.addAll es).enables := by
  have hdecides : ∀ target d, Decides ds target d ↔ Decides es target d := fun target d =>
    ⟨fun ⟨h1, h2, h3⟩ => ⟨(h d).1 h1, h2, fun e he => h3 e ((h e).2 he)⟩,
      fun ⟨h1, h2, h3⟩ => ⟨(h d).2 h1, h2, fun e he => h3 e ((h e).1 he)⟩⟩
  funext target level
  rw [Bool.eq_iff_iff, enables_iff, enables_iff]
  simp only [hdecides]

end Filter

/-! ## Filter texts -/

/-- The text lists the parts, with a comma between each two of them. -/
def Lists (text : String) (parts : List (List Char)) : Prop :=
  text.toList = [','].intercalate parts ∧ ∀ part ∈ parts, ',' ∉ part

instance (text : String) (parts : List (List Char)) : Decidable (Lists text parts) :=
  inferInstanceAs (Decidable (_ ∧ _))

theorem filterParts_of_lists {text : String} {parts : List (List Char)} (h : Lists text parts) :
    filterParts text = (parts.map Text.trimmed).filter (!·.isEmpty) := by
  obtain ⟨htext, hcomma⟩ := h
  rw [filterParts, Text.pieces_eq_splitOn, htext]
  cases parts with
  | nil => decide
  | cons part parts => rw [List.splitOn_intercalate _ hcomma (List.cons_ne_nil _ _)]

theorem lists_pieces (text : String) : Lists text (Text.pieces ',' text.toList) := by
  refine ⟨?_, fun part hpart => Text.not_mem_of_mem_pieces hpart⟩
  rw [Text.pieces_eq_splitOn, List.intercalate_splitOn]

namespace Settings

/-- The directives in force before those of the filter text: what the environment requests, or, if it
requests nothing or what it requests is malformed, the level. -/
def baseDirectives (s : Settings) (requested : Option String) : Except DirectiveFault (List Directive) :=
  match requested.map directives with
  | none => .ok [.upTo s.level]
  | some (.ok ds) => .ok ds
  | some (.error .malformed) => .ok [.upTo s.level]
  | some (.error .cut) => .error .cut

/-- Whether the settings with this filter text let an event through, if there is a filter. -/
def passes (s : Settings) (requested : Option String) (text target : String) (level : Level) :
    Except DirectiveFault Bool :=
  ({ s with filter := some text }.buildFilter requested).map (Filter.enables · target level)

theorem buildFilter_text (s : Settings) (requested : Option String) (text : String) :
    { s with filter := some text }.buildFilter requested =
      (s.baseDirectives requested).map fun base =>
        Filter.nothing.addAll (base ++ (filterParts text).map (partDirective s.level)) := by
  have hadd : ∀ base own, (Filter.nothing.addAll base).addAll own = Filter.nothing.addAll (base ++ own) :=
    fun base own => (List.foldl_append ..).symm
  simp only [← hadd, buildFilter, baseDirectives]
  cases requested with
  | none => rfl
  | some requested =>
    rw [environmentFilter, Option.map_some]
    rcases directives requested with (_ | _) | base <;> rfl

theorem passes_eq (s : Settings) (requested : Option String) (text : String) :
    s.passes requested text = fun target level => (s.baseDirectives requested).map fun base =>
      (Filter.nothing.addAll (base ++ (filterParts text).map (partDirective s.level))).enables target level := by
  funext target level
  rw [passes, buildFilter_text]
  cases s.baseDirectives requested <;> rfl

/-- Only the parts of the text matter. -/
theorem passes_of_parts (s : Settings) (requested : Option String) {text text' : String}
    (h : filterParts text' = filterParts text) : s.passes requested text' = s.passes requested text := by
  rw [passes_eq, passes_eq, h]

/-- The text is made of directives; `ds` are the directives in force before it, followed by its own. -/
def Sequence (s : Settings) (requested : Option String) (text : String) (ds : List Directive) : Prop :=
  ∃ base own, s.baseDirectives requested = .ok base ∧
    (filterParts text).map Directive.parse = own.map .ok ∧ ds = base ++ own

theorem map_partDirective {parts : List (List Char)} {own : List Directive}
    (h : parts.map Directive.parse = own.map .ok) (level : Level) :
    parts.map (partDirective level) = own := by
  induction parts generalizing own with
  | nil => simpa using h
  | cons part parts ih =>
    cases own with
    | nil => simp at h
    | cons d ds =>
      obtain ⟨hd, hds⟩ := List.cons.inj h
      rw [List.map_cons, ih hds, partDirective, hd]

theorem Sequence.buildFilter_eq {s : Settings} {requested : Option String} {text : String}
    (h : s.Sequence requested text ds) :
    { s with filter := some text }.buildFilter requested = .ok (Filter.nothing.addAll ds) := by
  obtain ⟨base, own, hbase, hown, rfl⟩ := h
  rw [buildFilter_text, hbase, map_partDirective hown]
  rfl

theorem Sequence.passes_eq {s : Settings} {requested : Option String} {text : String}
    (h : s.Sequence requested text ds) :
    s.passes requested text = fun target level => .ok ((Filter.nothing.addAll ds).enables target level) := by
  funext target level
  rw [passes, h.buildFilter_eq]
  rfl

end Settings

/-! ## Texts made of directives -/

/-- A part that is a directive is not empty. -/
theorem ne_nil_of_parse {part : List Char} (h : Directive.parse part = .ok d) : part ≠ [] := by
  rintro rfl
  cases h

/-- Two texts that differ in the order of two neighbouring directives. -/
theorem partDirectives_swap {text text' : String} {before after : List (List Char)} {p q : List Char}
    (h : Lists text (before ++ p :: q :: after)) (h' : Lists text' (before ++ q :: p :: after))
    (hd : Directive.parse (Text.trimmed p) = .ok d) (he : Directive.parse (Text.trimmed q) = .ok e)
    (level : Level) :
    ∃ ds es, (filterParts text).map (partDirective level) = ds ++ d :: e :: es ∧
      (filterParts text').map (partDirective level) = ds ++ e :: d :: es := by
  have hp := ne_nil_of_parse hd
  have hq := ne_nil_of_parse he
  rw [filterParts_of_lists h, filterParts_of_lists h']
  exact ⟨((before.map Text.trimmed).filter (!·.isEmpty)).map (partDirective level),
    ((after.map Text.trimmed).filter (!·.isEmpty)).map (partDirective level),
    by simp [hp, hq, partDirective, hd, he], by simp [hp, hq, partDirective, hd, he]⟩

theorem passes_swap (s : Settings) (requested : Option String) {text text' : String}
    (hne : d.target ≠ e.target)
    (h : (filterParts text).map (partDirective s.level) = ds ++ d :: e :: es)
    (h' : (filterParts text').map (partDirective s.level) = ds ++ e :: d :: es) :
    s.passes requested text' = s.passes requested text := by
  have henables : ∀ base, (Filter.nothing.addAll (base ++ (ds ++ e :: d :: es))).enables =
      (Filter.nothing.addAll (base ++ (ds ++ d :: e :: es))).enables := by
    intro base
    rw [← List.append_assoc, ← List.append_assoc]
    exact Filter.enables_congr (standing_swap hne.symm (base ++ ds) es)
  simp only [Settings.passes_eq, h, h', henables]

/-- The filter of a text that is made of directives, whatever is in force before them. It lets an event
through if the directive that decides about its target does. Which events these are depends only on the
last directive for each target; so neighbouring directives with different targets can be exchanged, and
blank parts and blanks around the parts do not matter. -/
theorem standing_directives_decide (s : Settings) (requested : Option String) (text : String)
    (ds : List Directive) (h : s.Sequence requested text ds) :
    (∃ f, { s with filter := some text }.buildFilter requested = .ok f ∧
      ∀ target level, f.enables target level = true ↔
        ∃ d, Decides ds target d ∧ d.limit.admits level = true) ∧
    (∀ s' requested' text' es, Settings.Sequence s' requested' text' es →
      (∀ d, Standing es d ↔ Standing ds d) →
        s'.passes requested' text' = s.passes requested text) ∧
    ∀ text' before after,
      (∀ p q d e, Lists text (before ++ p :: q :: after) → Lists text' (before ++ q :: p :: after) →
        Directive.parse (Text.trimmed p) = .ok d → Directive.parse (Text.trimmed q) = .ok e →
        d.target ≠ e.target → s.passes requested text' = s.passes requested text) ∧
      (∀ blank, Lists text (before ++ after) → Lists text' (before ++ blank :: after) →
        (∀ c ∈ blank, Text.isBlank c = true) → s.passes requested text' = s.passes requested text) ∧
      ∀ part left right, Lists text (before ++ part :: after) →
        Lists text' (before ++ (left ++ part ++ right) :: after) →
        (∀ c ∈ left, Text.isBlank c = true) → (∀ c ∈ right, Text.isBlank c = true) →
          s.passes requested text' = s.passes requested text := by
  refine ⟨⟨_, h.buildFilter_eq, fun target level => Filter.enables_iff⟩,
    fun s' requested' text' es hes hstanding => ?_, fun text' before after =>
      ⟨fun p q d e hlists hlists' hd he hne => ?_, fun blank hlists hlists' hblank => ?_,
        fun part left right hlists hlists' hl hr => ?_⟩⟩
  · rw [hes.passes_eq, h.passes_eq, Filter.enables_congr hstanding]
  · obtain ⟨ds, es, hds, hes⟩ := partDirectives_swap hlists hlists' hd he s.level
    exact passes_swap s requested hne hds hes
  · refine s.passes_of_parts requested ?_
    rw [filterParts_of_lists hlists, filterParts_of_lists hlists']
    simp [Text.trimmed_blank hblank]
  · refine s.passes_of_parts requested ?_
    rw [filterParts_of_lists hlists, filterParts_of_lists hlists']
    simp only [List.map_append, List.map_cons, Text.trimmed_padded hl hr]

/-- Directives with targets that begin one another, over two that the environment requests. -/
def overlapping : String := " compy::programs=off,\t, compy=debug,info\u3000"

theorem standing_directives_decide_overlapping :
    let requested := some "compy=error,compy_runtime=trace"
    let ds : List Directive := [⟨"compy", some .error⟩, ⟨"compy_runtime", some .trace⟩,
      ⟨"compy::programs", none⟩, ⟨"compy", some .debug⟩, ⟨"", some .info⟩]
    Settings.Sequence {} requested overlapping ds ∧
      (∃ f, Settings.buildFilter { filter := some overlapping } requested = .ok f ∧
        f.enables "compy_runtime::builtins" .trace = true ∧ f.enables "compy::frontend::cli" .debug = true) ∧
      Settings.passes {} requested " compy::programs=off,\t,info\u3000, compy=debug" =
        Settings.passes {} requested overlapping := by
  intro requested ds
  have hseq : Settings.Sequence {} requested overlapping ds :=
    ⟨[⟨"compy", some .error⟩, ⟨"compy_runtime", some .trace⟩],
      [⟨"compy::programs", none⟩, ⟨"compy", some .debug⟩, ⟨"", some .info⟩], by decide, by decide, rfl⟩
  obtain ⟨⟨f, hf, henables⟩, -, hedits⟩ := standing_directives_decide {} requested overlapping ds hseq
  have hruntime : Decides ds "compy_runtime::builtins" ⟨"compy_runtime", some .trace⟩ :=
    Filter.decisive?_eq_some_iff.1 (by decide)
  have hcli : Decides ds "compy::frontend::cli" ⟨"compy", some .debug⟩ :=
    Filter.decisive?_eq_some_iff.1 (by decide)
  refine ⟨hseq, ⟨f, hf, (henables _ _).2 ⟨_, hruntime, rfl⟩, (henables _ _).2 ⟨_, hcli, rfl⟩⟩, ?_⟩
  exact (hedits _ [" compy::programs=off".toList, ['\t']] []).1 " compy=debug".toList "info\u3000".toList
    ⟨"compy", some .debug⟩ ⟨"", some .info⟩ (by decide) (by decide) (by decide) (by decide) (by decide)

end Log

end Builtins
