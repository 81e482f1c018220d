import Builtins.Toml.Document
import Mathlib

/-!
# What a document can hold

However the lines of a document are put together, no table in it has two entries under one key, and
every integer in it is a word. So a key stands for at most one value, and which one it is does not
depend on where the entry stands.

* `Value.Sound`, `Entries.Sound`: both properties, at every depth.
* `sound_number`, `sound_value`: what is read as a value is sound.
* `sound_update`, and from it `sound_assign`, `sound_openTable`, `sound_openElement`: changes to the
  tables of a document keep it sound.
* `sound_line`, `sound_document`: one line, and a whole document.
-/
namespace Builtins.Toml

/-- Integers are words, and no table has two entries under one key. -/
inductive Value.Sound : Value → Prop where
  | string (s : String) : Sound (.string s)
  | integer {z : Int} (h : Word.Fits z) : Sound (.integer z)
  | float (b : Decimal.Binary) : Sound (.float b)
  | boolean (b : Bool) : Sound (.boolean b)
  | moment : Sound .moment
  | array {items : List Value} (h : ∀ v ∈ items, Sound v) : Sound (.array items)
  | table (origin : Origin) {es : List (String × Value)} (hkeys : (es.map Prod.fst).Nodup)
      (h : ∀ e ∈ es, Sound e.2) : Sound (.table origin es)
  | tables {items : List (List (String × Value))} (hkeys : ∀ es ∈ items, (es.map Prod.fst).Nodup)
      (h : ∀ es ∈ items, ∀ e ∈ es, Sound e.2) : Sound (.tables items)

namespace Entries

/-- The entries have keys of their own and sound values. -/
structure Sound (es : Entries) : Prop where
  keys : (es.map Prod.fst).Nodup
  values : ∀ e ∈ es, e.2.Sound

variable {es es' : Entries} {key : String} {v : Value}

theorem sound_nil : Sound [] := ⟨List.nodup_nil, by simp⟩

theorem Sound.table (h : es.Sound) (origin : Origin) : (Value.table origin es).Sound :=
  .table origin h.keys h.values

theorem Sound.of_table {origin : Origin} (h : (Value.table origin es).Sound) : es.Sound := by
  cases h with
  | table _ hkeys hvalues => exact ⟨hkeys, hvalues⟩

theorem sound_tables_iff {items : List Entries} : (Value.tables items).Sound ↔ ∀ es ∈ items, es.Sound := by
  constructor
  · intro h es hes
    cases h with
    | tables hkeys hvalues => exact ⟨hkeys es hes, hvalues es hes⟩
  · exact fun h => .tables (fun es hes => (h es hes).keys) fun es hes => (h es hes).values

/-- What is found under a key is the value of one of the entries. -/
theorem mem_of_lookup (h : es.lookup key = some v) : (key, v) ∈ es := by
  obtain ⟨before, after, rfl, -⟩ := List.lookup_eq_some_iff.1 h
  simp

theorem Sound.lookup (h : es.Sound) (hv : es.lookup key = some v) : v.Sound :=
  h.values _ (mem_of_lookup hv)

theorem not_mem_keys (h : es.lookup key = none) : key ∉ es.map Prod.fst := by
  intro hmem
  obtain ⟨e, he, rfl⟩ := List.mem_map.1 hmem
  simpa using List.lookup_eq_none_iff.1 h e he

theorem Sound.concat (h : es.Sound) (hkey : key ∉ es.map Prod.fst) (hv : v.Sound) :
    Sound (es ++ [(key, v)]) := by
  constructor
  · rw [List.map_append]
    exact h.keys.append (List.nodup_singleton _) (by simpa using hkey)
  · intro e he
    rcases List.mem_append.1 he with he | he
    · exact h.values e he
    · rw [List.mem_singleton.1 he]
      exact hv

theorem Sound.replace (h : es.Sound) (hv : v.Sound) (key : String) : Sound (es.replace key v) := by
  have hkeys : (es.replace key v).map Prod.fst = es.map Prod.fst := by
    rw [Entries.replace, List.map_map]
    refine List.map_congr_left fun e _ => ?_
    by_cases he : e.1 = key <;> simp [he]
  refine ⟨hkeys ▸ h.keys, fun e he => ?_⟩
  obtain ⟨e, hmem, rfl⟩ := List.mem_map.1 he
  by_cases hkey : e.1 = key
  · simpa [hkey] using hv
  · simpa [hkey] using h.values e hmem

theorem Sound.erase (h : es.Sound) (key : String) : Sound (es.erase key) :=
  ⟨(List.filter_sublist.map Prod.fst).nodup h.keys, fun e he => h.values e (List.mem_filter.1 he).1⟩

theorem not_mem_erase (es : Entries) (key : String) : key ∉ (es.erase key).map Prod.fst := by
  simp [Entries.erase]

/-- A change that keeps tables sound does so at the end of any path. The induction is on the path. -/
theorem sound_update {made origin : Origin} {change : Origin → Entries → Option Entries}
    (hchange : ∀ origin {es es'}, Sound es → change origin es = some es' → Sound es')
    {path : List String} (h : es.Sound) (hupdate : update made change path origin es = some es') :
    es'.Sound := by
  induction path generalizing origin es es' with
  | nil => exact hchange origin h hupdate
  | cons key path ih =>
    rw [update] at hupdate
    split at hupdate
    · next hnone =>
      obtain ⟨sub, hsub, hes⟩ := Option.bind_eq_some_iff.1 hupdate
      obtain rfl := Option.some.inj hes
      exact h.concat (not_mem_keys hnone) ((ih sound_nil hsub).table made)
    · next origin' sub hsome =>
      split at hupdate
      · cases hupdate
      · obtain ⟨sub', hsub, hes⟩ := Option.bind_eq_some_iff.1 hupdate
        obtain rfl := Option.some.inj hes
        exact h.replace ((ih (Sound.of_table (h.lookup hsome)) hsub).table origin') key
    · next items hsome =>
      split at hupdate
      · cases hupdate
      · next last before hreverse =>
        obtain ⟨last', hlast, hes⟩ := Option.bind_eq_some_iff.1 hupdate
        obtain rfl := Option.some.inj hes
        have hitems : ∀ es ∈ last :: before, Sound es := by
          intro es hmem
          rw [← hreverse] at hmem
          exact sound_tables_iff.1 (h.lookup hsome) es (List.mem_reverse.1 hmem)
        refine h.replace (sound_tables_iff.2 fun es hmem => ?_) key
        rcases List.mem_append.1 hmem with hmem | hmem
        · exact hitems es (List.mem_cons_of_mem _ (List.mem_reverse.1 hmem))
        · rw [List.mem_singleton.1 hmem]
          exact ih (hitems last List.mem_cons_self) hlast
    · cases hupdate

theorem not_mem_keys_of_contains (h : ¬ es.contains key = true) : key ∉ es.map Prod.fst := by
  intro hmem
  obtain ⟨e, he, rfl⟩ := List.mem_map.1 hmem
  exact h (List.any_eq_true.2 ⟨e, he, by simp⟩)

theorem sound_assign {path : List String} {origin : Origin} (h : es.Sound) (hv : v.Sound)
    (hassign : assign path key v origin es = some es') : es'.Sound := by
  refine sound_update (fun origin es es' hes hchange => ?_) h hassign
  split at hchange
  · cases hchange
  · next hnew =>
    obtain rfl := Option.some.inj hchange
    exact hes.concat (not_mem_keys_of_contains fun hc => hnew (.inr hc)) hv

theorem sound_openTable {path : List String} (h : es.Sound)
    (hopen : openTable path key es = some es') : es'.Sound := by
  refine sound_update (fun origin es es' hes hchange => ?_) h hopen
  split at hchange
  · next hnone =>
    obtain rfl := Option.some.inj hchange
    exact hes.concat (not_mem_keys hnone) (sound_nil.table _)
  · next sub hsome =>
    obtain rfl := Option.some.inj hchange
    exact (hes.erase key).concat (not_mem_erase es key) ((Sound.of_table (hes.lookup hsome)).table _)
  · cases hchange

theorem sound_openElement {path : List String} (h : es.Sound)
    (hopen : openElement path key es = some es') : es'.Sound := by
  refine sound_update (fun origin es es' hes hchange => ?_) h hopen
  split at hchange
  · next hnone =>
    obtain rfl := Option.some.inj hchange
    exact hes.concat (not_mem_keys hnone) (sound_tables_iff.2 (by simp [sound_nil]))
  · next items hsome =>
    obtain rfl := Option.some.inj hchange
    refine hes.replace (sound_tables_iff.2 fun es hmem => ?_) key
    rcases List.mem_append.1 hmem with hmem | hmem
    · exact sound_tables_iff.1 (hes.lookup hsome) es hmem
    · rw [List.mem_singleton.1 hmem]
      exact sound_nil
  · cases hchange

end Entries

/-! ## Values -/

/-- A scanner that gives sound values only. -/
def Scanner.Sound (scan : Scanner Value) : Prop := ∀ {cs v rest}, scan cs = some (v, rest) → v.Sound

theorem sound_wordValue {z : Int} {cs rest : List Char} {v : Value}
    (h : wordValue z cs = some (v, rest)) : v.Sound := by
  unfold wordValue at h
  split at h
  · next hfits =>
    obtain ⟨rfl, -⟩ := Prod.mk.inj (Option.some.inj h)
    exact .integer hfits
  · cases h

theorem sound_integer : Scanner.Sound integer := by
  intro cs v rest h
  have hbased : ∀ {base isDigit cs}, based base isDigit cs = some (v, rest) → v.Sound := by
    intro base isDigit cs h
    unfold based at h
    split at h
    · exact sound_wordValue h
    · cases h
  unfold integer at h
  split at h
  · exact hbased h
  · exact hbased h
  · exact hbased h
  · dsimp only at h
    split at h
    · exact sound_wordValue h
    · cases h

theorem sound_floatValue {negative : Bool} {whole fraction cs rest : List Char} {power : Int} {v : Value}
    (h : floatValue negative whole fraction power cs = some (v, rest)) : v.Sound := by
  unfold floatValue at h
  dsimp only at h
  split at h
  · cases h
  · obtain ⟨rfl, -⟩ := Prod.mk.inj (Option.some.inj h)
    exact .float _

theorem sound_decimalFloat : Scanner.Sound decimalFloat := by
  intro cs v rest h
  unfold decimalFloat at h
  dsimp only at h
  repeat' split at h
  all_goals first | exact sound_floatValue h | cases h

theorem sound_specialFloat : Scanner.Sound specialFloat := by
  intro cs v rest h
  unfold specialFloat at h
  dsimp only at h
  split at h
  · obtain ⟨rfl, -⟩ := Prod.mk.inj (Option.some.inj h)
    exact .float _
  · obtain ⟨rfl, -⟩ := Prod.mk.inj (Option.some.inj h)
    exact .float _
  · cases h

theorem sound_boolean : Scanner.Sound boolean := by
  intro cs v rest h
  unfold boolean at h
  split at h
  · obtain ⟨rfl, -⟩ := Prod.mk.inj (Option.some.inj h)
    exact .boolean _
  · obtain ⟨rfl, -⟩ := Prod.mk.inj (Option.some.inj h)
    exact .boolean _
  · cases h

theorem sound_moment : Scanner.Sound moment := by
  intro cs v rest h
  have hmapped : ∀ {o : Option (List Char)}, (o.map fun rest => (Value.moment, rest)) = some (v, rest) →
      v.Sound := by
    intro o ho
    obtain ⟨left, -, heq⟩ := Option.map_eq_some_iff.1 ho
    obtain ⟨rfl, -⟩ := Prod.mk.inj heq
    exact .moment
  unfold moment at h
  split at h
  · exact hmapped h
  · next left hdate =>
    have hdone : some (Value.moment, left) = some (v, rest) → v.Sound := hmapped (o := some left)
    split at h
    · split at h
      · split at h
        · exact hmapped h
        · exact hdone h
      · exact hdone h
    · exact hdone h

theorem sound_number : Scanner.Sound number := by
  intro cs v rest h
  simp only [number, Option.orElse_eq_some] at h
  rcases h with h | ⟨-, h | ⟨-, h | ⟨-, h⟩⟩⟩
  · exact sound_moment h
  · exact sound_decimalFloat h
  · exact sound_specialFloat h
  · exact sound_integer h

theorem sound_arrayRest {scan : Scanner Value} (hscan : scan.Sound) {cs rest : List Char}
    {vs : List Value} (h : arrayRest scan cs = some (vs, rest)) : ∀ v ∈ vs, v.Sound := by
  induction cs using arrayRest.induct scan generalizing vs rest with
  | case1 cs left hstart =>
    rw [arrayRest, hstart] at h
    obtain ⟨rfl, -⟩ := Prod.mk.inj (Option.some.inj h)
    simp
  | case2 cs hstart hscanned => simp [arrayRest, hscanned] at h
  | case3 cs v left after hclosed hstart hscanned =>
    simp only [arrayRest, hscanned, hclosed] at h
    obtain ⟨rfl, -⟩ := Prod.mk.inj (Option.some.inj h)
    simpa using hscan hscanned
  | case4 cs v left after hcomma hshorter hstart hscanned ih =>
    rw [arrayRest] at h
    simp only [hscanned, hcomma, hshorter, if_true] at h
    obtain ⟨⟨vs', rest'⟩, hrest, heq⟩ := Option.map_eq_some_iff.1 h
    obtain ⟨rfl, -⟩ := Prod.mk.inj heq
    exact List.forall_mem_cons.2 ⟨hscan hscanned, ih hrest⟩
  | case5 cs v left after hcomma hshorter hstart hscanned =>
    simp [arrayRest, hscanned, hcomma, hshorter] at h
  | case6 cs v left hclosed hcomma hstart hscanned =>
    simp [arrayRest, hscanned] at h

theorem sound_inlineRest {scan : Scanner Value} (hscan : scan.Sound) {es es' : Entries}
    {cs rest : List Char} (hes : es.Sound) (h : inlineRest scan es cs = some (es', rest)) :
    es'.Sound := by
  induction es, cs using inlineRest.induct scan generalizing es' rest with
  | case1 es cs hkey => simp [inlineRest, hkey] at h
  | case2 es cs path name left hkey hequals => simp [inlineRest, hkey, hequals] at h
  | case3 es cs path name left hkey after hequals hvalue => simp [inlineRest, hkey, hequals, hvalue] at h
  | case4 es cs path name left hkey after hequals v left' hvalue hassign =>
    simp [inlineRest, hkey, hequals, hvalue, hassign] at h
  | case5 es cs path name left hkey after hequals v left' hvalue es₁ hassign after' hclosed =>
    simp only [inlineRest, hkey, hequals, hvalue, hassign, hclosed] at h
    obtain ⟨rfl, -⟩ := Prod.mk.inj (Option.some.inj h)
    exact Entries.sound_assign hes (hscan hvalue) hassign
  | case6 es cs path name left hkey after hequals v left' hvalue es₁ hassign after' hcomma hshorter ih =>
    rw [inlineRest] at h
    simp only [hkey, hequals, hvalue, hassign, hcomma, hshorter, if_true] at h
    exact ih (Entries.sound_assign hes (hscan hvalue) hassign) h
  | case7 es cs path name left hkey after hequals v left' hvalue es₁ hassign after' hcomma hshorter =>
    simp [inlineRest, hkey, hequals, hvalue, hassign, hcomma, hshorter] at h
  | case8 es cs path name left hkey after hequals v left' hvalue es₁ hassign hclosed hcomma =>
    simp [inlineRest, hkey, hequals, hvalue, hassign] at h

theorem sound_inlineTable {scan : Scanner Value} (hscan : scan.Sound) {es : Entries}
    {cs rest : List Char} (h : inlineTable scan cs = some (es, rest)) : es.Sound := by
  unfold inlineTable at h
  split at h
  · obtain ⟨rfl, -⟩ := Prod.mk.inj (Option.some.inj h)
    exact Entries.sound_nil
  · exact sound_inlineRest hscan Entries.sound_nil h

/-- Values are sound at every depth. The induction is on the depth that is left. -/
theorem sound_value (depth : Nat) : Scanner.Sound (value depth) := by
  -- only brackets and braces nest, so all other values are read the same at every depth
  have hflat : ∀ {depth : Nat} {c : Char} {cs rest : List Char} {v : Value},
      c ≠ '[' → c ≠ '\x7b' → value depth (c :: cs) = some (v, rest) → v.Sound := by
    intro depth c cs rest v harray htable h
    unfold value at h
    simp only [harray, htable, if_false] at h
    split at h
    · obtain ⟨⟨s, left⟩, -, heq⟩ := Option.map_eq_some_iff.1 h
      obtain ⟨rfl, -⟩ := Prod.mk.inj heq
      exact .string s
    · split at h
      · exact sound_number h
      · split at h
        · exact sound_specialFloat h
        · exact sound_boolean h
  induction depth with
  | zero =>
    intro cs v rest h
    cases cs with
    | nil => simp [value] at h
    | cons c cs =>
      refine hflat ?_ ?_ h
      · rintro rfl
        simp [value] at h
      · rintro rfl
        simp [value] at h
  | succ depth ih =>
    intro cs v rest h
    cases cs with
    | nil => simp [value] at h
    | cons c cs =>
      by_cases harray : c = '['
      · subst harray
        obtain ⟨⟨vs, left⟩, hvs, heq⟩ := Option.map_eq_some_iff.1 h
        obtain ⟨rfl, -⟩ := Prod.mk.inj heq
        exact .array (sound_arrayRest ih hvs)
      · by_cases htable : c = '\x7b'
        · subst htable
          obtain ⟨⟨es, left⟩, hes, heq⟩ := Option.map_eq_some_iff.1 h
          obtain ⟨rfl, -⟩ := Prod.mk.inj heq
          exact (sound_inlineTable ih hes).table .inline
        · exact hflat harray htable h

/-! ## Lines -/

theorem sound_entryLine {d d' : Draft} {cs rest : List Char} (hd : d.root.Sound)
    (h : entryLine d cs = some (d', rest)) : d'.root.Sound := by
  simp only [entryLine, Option.bind_eq_bind, Option.bind_eq_some_iff] at h
  obtain ⟨⟨⟨path, name⟩, _⟩, -, _, -, ⟨v, _⟩, hv, _, -, root, hroot, heq⟩ := h
  obtain ⟨rfl, -⟩ := Prod.mk.inj (Option.some.inj heq)
  exact Entries.sound_update (fun origin es es' hes hassign =>
    Entries.sound_assign hes (sound_value _ hv) hassign) hd hroot

theorem sound_headerLine {d d' : Draft} {cs rest : List Char} (hd : d.root.Sound)
    (h : headerLine d cs = some (d', rest)) : d'.root.Sound := by
  unfold headerLine at h
  split at h
  · simp only [Option.bind_eq_bind, Option.bind_eq_some_iff] at h
    obtain ⟨⟨⟨path, name⟩, _⟩, -, _, -, _, -, _, -, root, hroot, heq⟩ := h
    obtain ⟨rfl, -⟩ := Prod.mk.inj (Option.some.inj heq)
    exact Entries.sound_openElement hd hroot
  · simp only [Option.bind_eq_bind, Option.bind_eq_some_iff] at h
    obtain ⟨⟨⟨path, name⟩, _⟩, -, _, -, _, -, root, hroot, heq⟩ := h
    obtain ⟨rfl, -⟩ := Prod.mk.inj (Option.some.inj heq)
    exact Entries.sound_openTable hd hroot
  · cases h

theorem sound_line {d d' : Draft} {cs rest : List Char} (hd : d.root.Sound)
    (h : line d cs = some (d', rest)) : d'.root.Sound := by
  have hkept : ∀ {o : Option (List Char)}, (o.map fun rest => (d, rest)) = some (d', rest) →
      d'.root.Sound := by
    intro o ho
    obtain ⟨left, -, heq⟩ := Option.map_eq_some_iff.1 ho
    obtain ⟨rfl, -⟩ := Prod.mk.inj heq
    exact hd
  unfold line at h
  split at h
  · exact hkept h
  · exact sound_headerLine hd h
  · split at h
    · exact hkept h
    · exact sound_entryLine hd h
  · cases h

theorem sound_lines {d : Draft} {cs : List Char} {es : Entries} (hd : d.root.Sound)
    (h : lines d cs = some es) : es.Sound := by
  induction d, cs using lines.induct generalizing es with
  | case1 d cs hempty =>
    rw [lines, hempty] at h
    obtain rfl := Option.some.inj h
    exact hd
  | case2 d cs hstart hline => simp [lines, hline] at h
  | case3 d cs d' rest hshorter hstart hline ih =>
    rw [lines] at h
    simp only [hline, hshorter, if_true] at h
    exact ih (sound_line hd hline) h
  | case4 d cs d' rest hshorter hstart hline => simp [lines, hline, hshorter] at h

theorem sound_document {text : String} {es : Entries} (h : document text = some es) : es.Sound := by
  unfold document at h
  split at h
  · split at h
    · exact sound_lines Entries.sound_nil h
    · exact sound_lines Entries.sound_nil h
  · obtain rfl := Option.some.inj h
    exact Entries.sound_nil

end Builtins.Toml
