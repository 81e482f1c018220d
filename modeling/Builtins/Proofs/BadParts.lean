import Builtins.Proofs.Filters
import Mathlib

/-!
# Parts of a filter text that are no directives

A part of a filter text that is no directive is not left out when the filter is built: it stands for
the level of the settings, for all targets, and takes the place of what was said for all targets
before. Here is when this makes no difference.

* `withoutBadParts`: the text without such parts.
* `filled`, `skipped`: the directives with the level in the place of such parts, and without them.
* `standing_filled_of_ne`, `standing_filled_of_masked`, `standing_level_of_not_masked`: which
  directives stand in both, and which in the first only.
* `bad_parts_skipped_iff`: when a text lets through what it would without such parts.
* `bad_part_not_skipped`: a text where it does not.
-/
namespace Builtins.Log

variable {ds : List Directive} {d : Directive} {level : Level} {base : List Directive}
  {parts : List (List Char)} {part : List Char}

/-! ## Leaving parts out -/

/-- The directives among some parts. -/
def readParts (parts : List (List Char)) : List Directive :=
  parts.filterMap fun part => (Directive.parse part).toOption

/-- The text without the parts that are neither blank nor directives. -/
def withoutBadParts (text : String) : String :=
  String.ofList ([','].intercalate ((Text.pieces ',' text.toList).filter fun part =>
    (Text.trimmed part).isEmpty || (Directive.parse (Text.trimmed part)).toOption.isSome))

/-- Each part that is no directive is followed by a directive for all targets. -/
def Masked (parts : List (List Char)) : Prop :=
  ∀ before part after, parts = before ++ part :: after → (∀ d, Directive.parse part ≠ .ok d) →
    ∃ later ∈ after, ∃ limit, Directive.parse later = .ok ⟨"", limit⟩

theorem filterParts_withoutBadParts (text : String) :
    filterParts (withoutBadParts text) =
      (filterParts text).filter fun part => (Directive.parse part).toOption.isSome := by
  have hlists := lists_pieces text
  have hkept : Lists (withoutBadParts text) ((Text.pieces ',' text.toList).filter fun part =>
      (Text.trimmed part).isEmpty || (Directive.parse (Text.trimmed part)).toOption.isSome) :=
    ⟨String.toList_ofList .., fun part hpart => hlists.2 part (List.mem_of_mem_filter hpart)⟩
  rw [filterParts_of_lists hkept, filterParts_of_lists hlists]
  simp only [List.filter_map, List.filter_filter]
  congr 2
  funext part
  cases h : (Text.trimmed part).isEmpty <;> simp [h]

/-- What becomes of a part: it is no directive and stands for the level, or it is one. -/
theorem part_cases (level : Level) (part : List Char) :
    ((∀ d, Directive.parse part ≠ .ok d) ∧ partDirective level part = .upTo level ∧
        (Directive.parse part).toOption = none) ∨
      ∃ d, Directive.parse part = .ok d ∧ partDirective level part = d ∧
        (Directive.parse part).toOption = some d := by
  unfold partDirective
  cases Directive.parse part with
  | error fault => exact .inl ⟨by simp, rfl, rfl⟩
  | ok d => exact .inr ⟨d, rfl, rfl, rfl⟩

/-- The directives of a text's parts, where a part that is none stands for the level. -/
def filled (level : Level) (base : List Directive) (parts : List (List Char)) : List Directive :=
  base ++ parts.map (partDirective level)

/-- The directives of a text's parts, where a part that is none is left out. -/
def skipped (base : List Directive) (parts : List (List Char)) : List Directive :=
  base ++ readParts parts

theorem filled_concat (level : Level) (base : List Directive) (parts : List (List Char))
    (part : List Char) :
    filled level base (parts ++ [part]) = filled level base parts ++ [partDirective level part] := by
  simp [filled]

theorem skipped_concat (base : List Directive) (parts : List (List Char)) (part : List Char) :
    skipped base (parts ++ [part]) =
      skipped base parts ++ ((Directive.parse part).toOption).toList := by
  cases h : (Directive.parse part).toOption <;> simp [skipped, readParts, h]

/-- A part that is no directive does not touch the directives with a target of their own. -/
theorem standing_filled_of_ne (h : d.target ≠ "") :
    Standing (filled level base parts) d ↔ Standing (skipped base parts) d := by
  induction parts using List.reverseRecOn with
  | nil => simp [filled, skipped, readParts]
  | append_singleton parts part ih =>
    rw [filled_concat, skipped_concat, standing_concat]
    obtain ⟨-, hlevel, hnone⟩ | ⟨e, -, hlevel, hsome⟩ := part_cases level part
    · have hne : d ≠ .upTo level := fun he => h (congrArg Directive.target he)
      rw [hlevel, hnone, Option.toList_none, List.append_nil, ← ih]
      exact ⟨fun hd => (hd.resolve_left hne).1, fun hd => .inr ⟨hd, h⟩⟩
    · rw [hlevel, hsome, Option.toList_some, standing_concat, ih]

theorem masked_concat : Masked (parts ++ [part]) ↔
    ∃ e, Directive.parse part = .ok e ∧ (e.target = "" ∨ Masked parts) := by
  constructor
  · intro h
    cases hpart : Directive.parse part with
    | error fault =>
      obtain ⟨later, hlater, -⟩ := h parts part [] rfl (by simp [hpart])
      cases hlater
    | ok e =>
      refine ⟨e, rfl, or_iff_not_imp_left.2 fun he before bad after hsplit hbad => ?_⟩
      obtain ⟨later, hlater, limit, hlimit⟩ := h before bad (after ++ [part]) (by simp [hsplit]) hbad
      rcases List.mem_append.1 hlater with hlater | hlater
      · exact ⟨later, hlater, limit, hlimit⟩
      · rw [List.mem_singleton.1 hlater, hpart] at hlimit
        exact absurd (congrArg Directive.target (Except.ok.inj hlimit)) he
  · rintro ⟨e, he, hmasked⟩ before bad after hsplit hbad
    rcases List.eq_nil_or_concat after with rfl | ⟨after, last, rfl⟩
    · obtain ⟨-, hlast⟩ := List.append_inj' hsplit rfl
      rw [← List.singleton_inj.1 hlast] at hbad
      exact absurd he (hbad e)
    · have hwhole : parts ++ [part] = (before ++ bad :: after) ++ [last] := by simpa using hsplit
      obtain ⟨hparts, hlast⟩ := List.append_inj' hwhole rfl
      obtain rfl := List.singleton_inj.1 hlast
      rcases hmasked with htarget | hmasked
      · exact ⟨part, by simp, e.limit, by rw [he, ← htarget]⟩
      · obtain ⟨later, hlater, hlimit⟩ := hmasked before bad after hparts hbad
        exact ⟨later, by simp [hlater], hlimit⟩

theorem standing_filled_of_masked (h : Masked parts) :
    Standing (filled level base parts) d ↔ Standing (skipped base parts) d := by
  induction parts using List.reverseRecOn with
  | nil => simp [filled, skipped, readParts]
  | append_singleton parts part ih =>
    obtain ⟨e, he, hmasked⟩ := masked_concat.1 h
    have hlevel : partDirective level part = e := by rw [partDirective, he]
    rw [filled_concat, skipped_concat, hlevel, he, Except.toOption, Option.toList_some, standing_concat,
      standing_concat]
    -- a directive for all targets takes the place of whatever stood for them before
    by_cases hd : d.target = ""
    · rcases hmasked with htarget | hmasked
      · simp [hd, htarget]
      · rw [ih hmasked]
    · rw [standing_filled_of_ne hd]

theorem standing_level_of_not_masked (h : ¬ Masked parts) :
    Standing (filled level base parts) (.upTo level) := by
  induction parts using List.reverseRecOn with
  | nil => exact absurd (fun before part after hsplit => by simp at hsplit) h
  | append_singleton parts part ih =>
    rw [filled_concat, standing_concat]
    obtain ⟨-, hlevel, -⟩ | ⟨e, he, hlevel, -⟩ := part_cases level part
    · exact .inl hlevel.symm
    · rw [masked_concat] at h
      simp only [he, Except.ok.injEq, exists_eq_left', not_or] at h
      rw [hlevel]
      exact .inr ⟨ih h.2, Ne.symm h.1⟩

/-- A limit that admits just the levels up to one is that level. -/
theorem Limit.eq_of_admits {limit : Limit} {level : Level}
    (h : ∀ l, limit.admits l = Limit.admits (some level) l) : limit = some level := by
  have hall : ∀ (a : Limit) (b : Level), (∀ l ∈ Level.all, a.admits l = Limit.admits (some b) l) →
      a = some b := by
    rintro (_ | a) b <;> cases b <;> try cases a
    all_goals decide
  exact hall limit level fun l _ => h l

/-- At the empty target a filter shows the limit of the directive for all targets. -/
theorem enables_empty {limit : Limit} (h : Standing ds ⟨"", limit⟩) (level : Level) :
    (Filter.nothing.addAll ds).enables "" level = limit.admits level := by
  rw [Bool.eq_iff_iff, Filter.enables_iff]
  constructor
  · rintro ⟨d, hd, hlevel⟩
    obtain ⟨hstanding, htarget⟩ := decides_empty.1 hd
    rwa [hstanding.unique h htarget] at hlevel
  · exact fun hlevel => ⟨_, decides_empty.2 ⟨h, rfl⟩, hlevel⟩

theorem enables_filled_iff :
    (Filter.nothing.addAll (skipped base parts)).enables =
        (Filter.nothing.addAll (filled level base parts)).enables ↔
      Masked parts ∨ Standing (skipped base parts) (.upTo level) := by
  constructor
  · intro h
    refine or_iff_not_imp_left.2 fun hmasked => ?_
    have hfilled : ∀ l, (Filter.nothing.addAll (filled level base parts)).enables "" l =
        Limit.admits (some level) l := enables_empty (standing_level_of_not_masked hmasked)
    rw [← h] at hfilled
    -- some directive stands for all targets, since the empty target is let through
    have hlevel : (Filter.nothing.addAll (skipped base parts)).enables "" level = true := by
      rw [hfilled]
      cases level <;> rfl
    obtain ⟨d, hd, -⟩ := Filter.enables_iff.1 hlevel
    obtain ⟨hstanding, htarget⟩ := decides_empty.1 hd
    have heq : d = ⟨"", d.limit⟩ := by rw [← htarget]
    rw [heq] at hstanding
    have hlimit : d.limit = some level :=
      Limit.eq_of_admits fun l => (enables_empty hstanding l).symm.trans (hfilled l)
    rwa [hlimit] at hstanding
  · intro h
    by_cases hmasked : Masked parts
    · exact Filter.enables_congr fun d => (standing_filled_of_masked hmasked).symm
    · have hskipped := h.resolve_left hmasked
      have hfilled : Standing (filled level base parts) (.upTo level) :=
        standing_level_of_not_masked hmasked
      refine Filter.enables_congr fun d => ?_
      by_cases hd : d.target = ""
      · constructor
        · intro hstanding
          rwa [hstanding.unique hskipped hd]
        · intro hstanding
          rwa [hstanding.unique hfilled hd]
      · exact (standing_filled_of_ne hd).symm

/-- What is left of some parts gives the directives among them. -/
theorem map_partDirective_filter (level : Level) (parts : List (List Char)) :
    (parts.filter fun part => (Directive.parse part).toOption.isSome).map (partDirective level) =
      readParts parts := by
  induction parts with
  | nil => rfl
  | cons part parts ih =>
    obtain ⟨-, -, hnone⟩ | ⟨d, -, hlevel, hsome⟩ := part_cases level part
    · rw [List.filter_cons_of_neg (by simp [hnone]), ih]
      simp [readParts, hnone]
    · rw [List.filter_cons_of_pos (by simp [hsome]), List.map_cons, ih, hlevel]
      simp [readParts, hsome]

/-- A part that is no directive stands for the level of the settings, for all targets. So a text lets
through what it would without such parts if, and only if, each of them is followed by a directive for
all targets, or the directive for all targets that stands without them has the level of the settings.
Parts with a bracket, which would be directives for spans and their fields, are left out of the model and
count as no directives here. -/
theorem bad_parts_skipped_iff (s : Settings) (requested : Option String) (text : String) :
    (∀ target level, s.passes requested (withoutBadParts text) target level =
        s.passes requested text target level) ↔
      ∀ base, s.baseDirectives requested = .ok base →
        Masked (filterParts text) ∨ Standing (base ++ readParts (filterParts text)) (.upTo s.level) := by
  rw [Settings.passes_eq, Settings.passes_eq, filterParts_withoutBadParts, map_partDirective_filter]
  cases s.baseDirectives requested with
  | error fault => simp [Except.map]
  | ok base =>
    simp only [Except.map, Except.ok.injEq, forall_eq']
    exact ⟨fun h => enables_filled_iff.1 (funext₂ h),
      fun h target level => congrFun₂ (enables_filled_iff.2 h) target level⟩

/-- The text asks for `debug` and then for something that is no directive, and gets the level instead. -/
theorem bad_part_not_skipped :
    Settings.passes {} none "debug,=bad=" "programs" .debug = .ok false ∧
      withoutBadParts "debug,=bad=" = "debug" ∧
      Settings.passes {} none "debug" "programs" .debug = .ok true := by
  decide +kernel

end Builtins.Log
