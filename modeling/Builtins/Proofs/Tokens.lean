import Builtins.Console
import Mathlib.Data.List.TakeWhile

/-!
# Reading tokens from chunks

A source delivers its bytes in chunks, and a read goes through them until it has a token. What comes
out depends on the bytes alone: with the chunks put together, a read is one pass of `absorb` over
all of them.

* `collect_absorbed`, `collect_stopped`: a read over several chunks is a pass over their bytes.
* `Delivers`: the relation between a source and the bytes it holds, which every read keeps.
* `runs`: the maximal runs of bytes that are no separators, each with what follows it. The n-th read
  takes the n-th run and leaves what follows it.
-/
namespace Builtins

namespace Source

/-- A source that delivers the chunks one by one. -/
def ofChunks (chunks : List (List UInt8)) : Source := ⟨chunks.map .data⟩

theorem bytes_ofChunks (chunks : List (List UInt8)) : (ofChunks chunks).bytes = chunks.flatten := by
  induction chunks with
  | nil => rfl
  | cons c cs ih =>
    simp only [bytes, ofChunks, List.map_cons, List.flatMap_cons, List.flatten_cons, Fill.bytes] at ih ⊢
    rw [ih]

/-- The source after `n` reads. -/
def after : Nat → Source → Source
  | 0, s => s
  | n + 1, s => (after n s).token.2

/-! ## One pass over the bytes -/

@[simp] theorem absorb_nil (token : List UInt8) : absorb token [] = (token, []) := by
  simp [absorb]

/-- The pass goes byte by byte: a separator is skipped or ends the token, any other byte goes on with
it. -/
theorem absorb_cons (token : List UInt8) (b : UInt8) (bs : List UInt8) :
    absorb token (b :: bs) =
      if isSeparator b then if token = [] then absorb token bs else (token, b :: bs)
      else absorb (token ++ [b]) bs := by
  by_cases hb : isSeparator b = true
  · by_cases ht : token = []
    · simp [absorb, hb, ht]
    · simp [absorb, hb, ht]
  · by_cases ht : token = []
    · simp [absorb, hb, ht]
    · simp [absorb, hb, ht]

/-- A pass over bytes that it uses up goes on with the bytes after them; one that stops does not look
at them. -/
theorem absorb_append (token xs ys : List UInt8) :
    absorb token (xs ++ ys) =
      if (absorb token xs).2 = [] then absorb (absorb token xs).1 ys
      else ((absorb token xs).1, (absorb token xs).2 ++ ys) := by
  induction xs generalizing token with
  | nil => simp
  | cons b bs ih =>
    rw [List.cons_append, absorb_cons, absorb_cons]
    by_cases hb : isSeparator b = true
    · by_cases ht : token = []
      · rw [if_pos hb, if_pos ht, if_pos hb, if_pos ht, ih]
      · simp [hb, ht]
    · rw [if_neg hb, if_neg hb, ih]

/-- A pass uses bytes up from the front, and those of them that are no separators go on with the token. -/
theorem absorb_split (token bytes : List UInt8) :
    ∃ used, bytes = used ++ (absorb token bytes).2 ∧
      (absorb token bytes).1 = token ++ used.filter (!isSeparator ·) := by
  induction bytes generalizing token with
  | nil => exact ⟨[], by simp⟩
  | cons b bs ih =>
    rw [absorb_cons]
    by_cases hb : isSeparator b = true
    · by_cases ht : token = []
      · -- a separator in front of the token is used up, but does not get into it
        obtain ⟨used, hbytes, htoken⟩ := ih token
        rw [if_pos hb, if_pos ht]
        exact ⟨b :: used, by rw [List.cons_append, ← hbytes], by simp [htoken, hb]⟩
      · rw [if_pos hb, if_neg ht]
        exact ⟨[], by simp⟩
    · obtain ⟨used, hbytes, htoken⟩ := ih (token ++ [b])
      rw [if_neg hb]
      exact ⟨b :: used, by rw [List.cons_append, ← hbytes], by simp [htoken, hb]⟩

/-! ## Reading over chunks -/

theorem collect_data {token c : List UInt8} (hc : c ≠ []) (rest : List Fill) :
    collect token (.data c :: rest) =
      if (absorb token c).2 = [] then collect (absorb token c).1 rest
      else (.ok (absorb token c).1, .data (absorb token c).2 :: rest) := by
  rw [collect, if_neg (by simpa using hc)]
  split
  · next t h => rw [h, if_pos rfl]
  · next t left hleft h => rw [h, if_neg (by simpa using hleft)]

/-- Chunks that are used up leave the token to the fills after them. -/
theorem collect_absorbed {chunks : List (List UInt8)} (hne : ∀ c ∈ chunks, c ≠ [])
    {token : List UInt8} (h : (absorb token chunks.flatten).2 = []) (later : List Fill) :
    collect token (chunks.map .data ++ later) = collect (absorb token chunks.flatten).1 later := by
  induction chunks generalizing token with
  | nil => simp
  | cons c cs ih =>
    rw [List.flatten_cons] at h ⊢
    rw [List.map_cons, List.cons_append, collect_data (hne c List.mem_cons_self)]
    rw [absorb_append] at h ⊢
    by_cases hc : (absorb token c).2 = []
    · rw [if_pos hc] at h ⊢
      rw [if_pos hc, ih (fun c hc => hne c (List.mem_cons_of_mem _ hc)) h]
    · rw [if_neg hc] at h
      exact absurd (List.append_eq_nil_iff.1 h).1 hc

/-- The chunks from the place on where `rest` begins: one chunk is cut there, and those after it are
whole. -/
def CutAt (chunks : List (List UInt8)) (rest : List UInt8) (left : List (List UInt8)) : Prop :=
  ∃ passed used first later, chunks = passed ++ (used ++ first) :: later ∧ first ≠ [] ∧
    left = first :: later ∧ left.flatten = rest

theorem CutAt.cons {chunks left : List (List UInt8)} {rest : List UInt8} (h : CutAt chunks rest left)
    (c : List UInt8) : CutAt (c :: chunks) rest left := by
  obtain ⟨passed, used, first, later, rfl, hleft⟩ := h
  exact ⟨c :: passed, used, first, later, rfl, hleft⟩

theorem CutAt.ne_nil {chunks left : List (List UInt8)} {rest : List UInt8} (h : CutAt chunks rest left)
    (hne : ∀ c ∈ chunks, c ≠ []) : ∀ c ∈ left, c ≠ [] := by
  obtain ⟨passed, used, first, later, rfl, hfirst, rfl, -⟩ := h
  intro c hc
  rcases List.mem_cons.1 hc with rfl | hc
  · exact hfirst
  · exact hne c (List.mem_append_right _ (List.mem_cons_of_mem _ hc))

theorem CutAt.flatten_eq {chunks left : List (List UInt8)} {rest : List UInt8}
    (h : CutAt chunks rest left) : left.flatten = rest := by
  obtain ⟨-, -, -, -, -, -, -, hflat⟩ := h
  exact hflat

/-- A token that ends within the chunks leaves the rest of its chunk and all that comes later. -/
theorem collect_stopped {chunks : List (List UInt8)} (hne : ∀ c ∈ chunks, c ≠ [])
    {token : List UInt8} (h : (absorb token chunks.flatten).2 ≠ []) (later : List Fill) :
    ∃ left : List (List UInt8), CutAt chunks (absorb token chunks.flatten).2 left ∧
      collect token (chunks.map .data ++ later) =
        (.ok (absorb token chunks.flatten).1, left.map .data ++ later) := by
  induction chunks generalizing token with
  | nil => simp at h
  | cons c cs ih =>
    have hcs : ∀ c ∈ cs, c ≠ [] := fun c hc => hne c (List.mem_cons_of_mem _ hc)
    rw [List.flatten_cons] at h ⊢
    rw [List.map_cons, List.cons_append, collect_data (hne c List.mem_cons_self)]
    rw [absorb_append] at h ⊢
    by_cases hc : (absorb token c).2 = []
    · rw [if_pos hc] at h ⊢
      rw [if_pos hc]
      obtain ⟨left, hcut, hcollect⟩ := ih hcs h
      exact ⟨left, hcut.cons c, hcollect⟩
    · rw [if_neg hc, if_neg hc]
      obtain ⟨used, hused, -⟩ := absorb_split token c
      refine ⟨(absorb token c).2 :: cs, ⟨[], used, _, cs, ?_, hc, rfl, rfl⟩, by simp⟩
      rw [List.nil_append, ← hused]

/-- A source that holds these bytes, in some non-empty chunks. -/
def Delivers (s : Source) (bytes : List UInt8) : Prop :=
  ∃ chunks, (∀ c ∈ chunks, c ≠ []) ∧ chunks.flatten = bytes ∧ s = ofChunks chunks

theorem Delivers.bytes_eq {s : Source} {bytes : List UInt8} (h : s.Delivers bytes) :
    s.bytes = bytes := by
  obtain ⟨chunks, -, rfl, rfl⟩ := h
  exact bytes_ofChunks chunks

/-- One read is one pass over the bytes, whatever the chunks are. -/
theorem Delivers.token {s : Source} {bytes : List UInt8} (h : s.Delivers bytes) :
    s.token.1 = decode (absorb [] bytes).1 ∧ s.token.2.Delivers (absorb [] bytes).2 := by
  obtain ⟨chunks, hne, rfl, rfl⟩ := h
  by_cases hleft : (absorb [] chunks.flatten).2 = []
  · have hcollect := collect_absorbed hne hleft []
    rw [List.append_nil] at hcollect
    rw [Source.token, ofChunks, hcollect, hleft]
    exact ⟨rfl, [], by simp, rfl, rfl⟩
  · obtain ⟨left, hcut, hcollect⟩ := collect_stopped hne hleft []
    rw [List.append_nil, List.append_nil] at hcollect
    rw [Source.token, ofChunks, hcollect]
    exact ⟨rfl, left, hcut.ne_nil hne, hcut.flatten_eq, rfl⟩

/-! ## Runs -/

/-- The maximal runs of bytes that are no separators, in order, each with the bytes behind it. -/
def runs : List UInt8 → List (List UInt8 × List UInt8)
  | [] => []
  | b :: bs =>
    if isSeparator b then runs bs
    else
      (b :: bs.takeWhile (!isSeparator ·), bs.dropWhile (!isSeparator ·)) ::
        runs (bs.dropWhile (!isSeparator ·))
termination_by bytes => bytes.length
decreasing_by
  · simp
  · exact Nat.lt_succ_of_le (List.dropWhile_sublist _).length_le

/-- `word` stands in `bytes` before `rest`, is not empty and has no separators, and no byte next to it
could be added: what is before it ends with a separator, and `rest` begins with one. -/
def IsRun (bytes word rest : List UInt8) : Prop :=
  ∃ before, bytes = before ++ word ++ rest ∧ word ≠ [] ∧ (∀ b ∈ word, isSeparator b = false) ∧
    (before = [] ∨ ∃ init s, before = init ++ [s] ∧ isSeparator s = true) ∧
    (rest = [] ∨ ∃ s tail, rest = s :: tail ∧ isSeparator s = true)

theorem IsRun.length_lt {bytes word rest : List UInt8} (h : IsRun bytes word rest) :
    rest.length < bytes.length := by
  obtain ⟨before, rfl, hw, -⟩ := h
  have := List.length_pos_iff.2 hw
  simp only [List.length_append]
  omega

/-- Cutting off the bytes that are no separators leaves nothing or a separator in front. -/
theorem dropWhile_word (bytes : List UInt8) :
    bytes.dropWhile (!isSeparator ·) = [] ∨
      ∃ s tail, bytes.dropWhile (!isSeparator ·) = s :: tail ∧ isSeparator s = true := by
  cases h : bytes.dropWhile (!isSeparator ·) with
  | nil => exact .inl rfl
  | cons s tail =>
    have := List.head?_dropWhile_not (!isSeparator ·) bytes
    rw [h] at this
    exact .inr ⟨s, tail, rfl, by simpa using this⟩

theorem takeWhile_word {bytes : List UInt8} {b : UInt8} (h : b ∈ bytes.takeWhile (!isSeparator ·)) :
    isSeparator b = false := by
  simpa using List.mem_takeWhile_imp h

/-- A run that is followed by nothing or by a separator is where the cut falls. -/
theorem span_word {word rest : List UInt8} (hw : ∀ b ∈ word, isSeparator b = false)
    (hr : rest = [] ∨ ∃ s tail, rest = s :: tail ∧ isSeparator s = true) :
    (word ++ rest).takeWhile (!isSeparator ·) = word ∧
      (word ++ rest).dropWhile (!isSeparator ·) = rest := by
  have hw' : ∀ b ∈ word, (!isSeparator b) = true := fun b hb => by simp [hw b hb]
  rw [List.takeWhile_append_of_pos hw', List.dropWhile_append_of_pos hw']
  rcases hr with rfl | ⟨s, tail, rfl, hs⟩
  · simp
  · simp [hs]

/-- A word does not begin with a separator. -/
theorem head_word {word rest tail : List UInt8} {s : UInt8} (hne : word ≠ [])
    (hw : ∀ b ∈ word, isSeparator b = false) (h : word ++ rest = s :: tail) :
    isSeparator s = false := by
  cases word with
  | nil => exact absurd rfl hne
  | cons c word =>
    obtain ⟨rfl, -⟩ := List.cons.inj h
    exact hw c List.mem_cons_self

theorem isRun_cons_separator {b : UInt8} {bs word rest : List UInt8} (hb : isSeparator b = true) :
    IsRun (b :: bs) word rest ↔ IsRun bs word rest := by
  constructor
  · rintro ⟨before, he, hne, hw, hbefore, hrest⟩
    cases before with
    | nil =>
      rw [head_word hne hw he.symm] at hb
      cases hb
    | cons c before =>
      refine ⟨before, (List.cons.inj he).2, hne, hw, ?_, hrest⟩
      rcases hbefore with h | ⟨init, s, h, hs⟩
      · cases h
      · cases init with
        | nil => exact .inl (List.cons.inj h).2
        | cons d init => exact .inr ⟨init, s, (List.cons.inj h).2, hs⟩
  · rintro ⟨before, rfl, hne, hw, hbefore, hrest⟩
    refine ⟨b :: before, rfl, hne, hw, .inr ?_, hrest⟩
    rcases hbefore with rfl | ⟨init, s, rfl, hs⟩
    · exact ⟨[], b, rfl, hb⟩
    · exact ⟨b :: init, s, rfl, hs⟩

/-- The runs of bytes that begin with a word are that word and the runs behind it. -/
theorem isRun_word_append {first bs word rest : List UInt8} (hne : first ≠ [])
    (hf : ∀ b ∈ first, isSeparator b = false)
    (hbs : bs = [] ∨ ∃ s tail, bs = s :: tail ∧ isSeparator s = true) :
    IsRun (first ++ bs) word rest ↔ (word = first ∧ rest = bs) ∨ IsRun bs word rest := by
  constructor
  · rintro ⟨before, he, hwne, hw, hbefore, hrest⟩
    rcases hbefore with rfl | ⟨init, s, rfl, hs⟩
    · -- a run at the very beginning is cut where the first word is
      have h1 := span_word hf hbs
      have h2 := span_word hw hrest
      rw [he, List.nil_append] at h1
      exact .inl ⟨h2.1.symm.trans h1.1, h2.2.symm.trans h1.2⟩
    · -- otherwise the separator before it lies behind the first word
      right
      have hsplit : ∃ init', init = first ++ init' := by
        rw [List.append_assoc, List.append_assoc] at he
        rcases List.append_eq_append_iff.1 he with ⟨as, rfl, -⟩ | ⟨cs, rfl, hcs⟩
        · exact ⟨as, rfl⟩
        · cases cs with
          | nil => exact ⟨[], by simp⟩
          | cons c cs =>
            have hcs' : ∀ b ∈ c :: cs, isSeparator b = false := fun b hb =>
              hf b (List.mem_append_right _ hb)
            rw [head_word (List.cons_ne_nil c cs) hcs' hcs.symm] at hs
            cases hs
      obtain ⟨init', rfl⟩ := hsplit
      refine ⟨init' ++ [s], ?_, hwne, hw, .inr ⟨init', s, rfl, hs⟩, hrest⟩
      simpa using he
  · rintro (⟨rfl, rfl⟩ | ⟨before, rfl, hwne, hw, hbefore, hrest⟩)
    · exact ⟨[], rfl, hne, hf, .inl rfl, hbs⟩
    · refine ⟨first ++ before, by simp, hwne, hw, .inr ?_, hrest⟩
      rcases hbefore with rfl | ⟨init, s, rfl, hs⟩
      · rcases hbs with h | ⟨s, tail, h, hs⟩
        · simp [hwne] at h
        · rw [head_word hwne hw h] at hs
          cases hs
      · exact ⟨first ++ init, s, by simp, hs⟩

theorem mem_runs_iff {bytes word rest : List UInt8} :
    (word, rest) ∈ runs bytes ↔ IsRun bytes word rest := by
  fun_induction runs bytes with
  | case1 =>
    simp only [List.not_mem_nil, false_iff]
    exact fun h => Nat.not_lt_zero _ h.length_lt
  | case2 b bs hb ih => rw [ih, isRun_cons_separator hb]
  | case3 b bs hb ih =>
    have hb' : isSeparator b = false := by simpa using hb
    have hfirst : ∀ c ∈ b :: bs.takeWhile (!isSeparator ·), isSeparator c = false := by
      intro c hc
      rcases List.mem_cons.1 hc with rfl | hc
      · exact hb'
      · exact takeWhile_word hc
    have hbytes : b :: bs =
        (b :: bs.takeWhile (!isSeparator ·)) ++ bs.dropWhile (!isSeparator ·) := by
      rw [List.cons_append, List.takeWhile_append_dropWhile]
    rw [List.mem_cons, ih, hbytes, isRun_word_append (by simp) hfirst (dropWhile_word bs),
      Prod.mk.injEq]

/-- The runs are listed from left to right: less and less is behind them. -/
theorem runs_ordered (bytes : List UInt8) :
    (runs bytes).Pairwise fun a b => b.2.length < a.2.length := by
  fun_induction runs bytes with
  | case1 => exact .nil
  | case2 b bs hb ih => exact ih
  | case3 b bs hb ih =>
    refine List.pairwise_cons.2 ⟨fun a ha => ?_, ih⟩
    exact (mem_runs_iff.1 ha).length_lt

/-! ## Reads and runs -/

/-- A pass takes the first run, and all the bytes if there is none. -/
theorem absorb_eq_run (bytes : List UInt8) : absorb [] bytes = (runs bytes).head?.getD ([], []) := by
  fun_induction runs bytes with
  | case1 => simp
  | case2 b bs hb ih => rw [absorb_cons, if_pos hb, if_pos rfl, ih]
  | case3 b bs hb ih =>
    rw [absorb_cons, if_neg hb]
    simp [absorb]

theorem runs_behind {bytes word rest : List UInt8} {later : List (List UInt8 × List UInt8)}
    (h : runs bytes = (word, rest) :: later) : runs rest = later := by
  fun_induction runs bytes with
  | case1 => cases h
  | case2 b bs hb ih => exact ih h
  | case3 b bs hb ih =>
    obtain ⟨⟨-, rfl⟩, rfl⟩ := h
    rfl

/-- The bytes that are left after `k` passes. -/
def left (bytes : List UInt8) : Nat → List UInt8
  | 0 => bytes
  | k + 1 => (absorb [] (left bytes k)).2

/-- After `k` passes the runs that are left are all but the first `k`. -/
theorem runs_left (bytes : List UInt8) (k : Nat) : runs (left bytes k) = (runs bytes).drop k := by
  induction k with
  | zero => rfl
  | succ k ih =>
    rw [left, absorb_eq_run, ← List.drop_drop, ← ih]
    cases hl : runs (left bytes k) with
    | nil => simp [runs]
    | cons run later =>
      obtain ⟨word, rest⟩ := run
      simpa using runs_behind hl

/-- The next pass takes the run at place `k`. -/
theorem absorb_left (bytes : List UInt8) (k : Nat) :
    absorb [] (left bytes k) = (runs bytes)[k]?.getD ([], []) := by
  rw [absorb_eq_run, runs_left, List.head?_drop]

/-- Reads and passes go in step. -/
theorem Delivers.after {s : Source} {bytes : List UInt8} (h : s.Delivers bytes) (k : Nat) :
    (s.after k).Delivers (left bytes k) := by
  induction k with
  | zero => exact h
  | succ k ih => exact ih.token.2

/-- The read at place `k`, and what it leaves. -/
theorem Delivers.read {s : Source} {bytes : List UInt8} (h : s.Delivers bytes) (k : Nat) :
    (s.after k).token.1 = decode ((runs bytes)[k]?.getD ([], [])).1 ∧
      (s.after (k + 1)).bytes = ((runs bytes)[k]?.getD ([], [])).2 := by
  rw [← absorb_left]
  exact ⟨(h.after k).token.1, (h.after (k + 1)).bytes_eq⟩

/-! ## Text -/

/-- What reading a word gives: the text with these bytes, or a fault if no text has them. -/
def Spells (word : List UInt8) : Except Fault String → Prop
  | .ok text => text.toUTF8 = word.toByteArray
  | .error fault => fault = .invalidUtf8 ∧ ¬ ∃ text : String, text.toUTF8 = word.toByteArray

theorem decode_spells (word : List UInt8) : Spells word (decode word) := by
  unfold decode String.fromUTF8?
  by_cases h : word.toByteArray.IsValidUTF8
  · rw [dif_pos h]
    rfl
  · rw [dif_neg h]
    refine ⟨rfl, fun ⟨text, ht⟩ => h ?_⟩
    rw [← ht]
    exact text.isValidUTF8

theorem decode_nil : decode [] = .ok "" := by
  have h := decode_spells []
  cases hd : decode [] with
  | ok text =>
    rw [hd] at h
    exact congrArg _ (String.toByteArray_inj.1 h)
  | error fault =>
    rw [hd] at h
    exact absurd ⟨"", rfl⟩ h.2

/-- Reading does not depend on how the bytes are cut into chunks. The n-th read gives the n-th maximal
run of bytes that are no separators, as text if it is text, and leaves exactly the bytes behind the
run; reads after the last run give the empty text. So two ways to cut the same bytes give the same
results and leave the same bytes, read by read. -/
theorem reads_independent_of_chunks (bytes : List UInt8) (chunks : List (List UInt8))
    (hne : ∀ c ∈ chunks, c ≠ []) (hflat : chunks.flatten = bytes) :
    (∀ word rest, (word, rest) ∈ runs bytes ↔ IsRun bytes word rest) ∧
      (runs bytes).Pairwise (fun a b => b.2.length < a.2.length) ∧
      (∀ k word rest, (runs bytes)[k]? = some (word, rest) →
        Spells word ((ofChunks chunks).after k).token.1 ∧
          ((ofChunks chunks).after (k + 1)).bytes = rest) ∧
      (∀ k, (runs bytes).length ≤ k →
        ((ofChunks chunks).after k).token.1 = .ok "" ∧
          ((ofChunks chunks).after (k + 1)).bytes = []) ∧
      ∀ chunks' : List (List UInt8), (∀ c ∈ chunks', c ≠ []) → chunks'.flatten = bytes → ∀ k,
        ((ofChunks chunks).after k).token.1 = ((ofChunks chunks').after k).token.1 ∧
          ((ofChunks chunks).after k).bytes = ((ofChunks chunks').after k).bytes := by
  have hdelivers : (ofChunks chunks).Delivers bytes := ⟨chunks, hne, hflat, rfl⟩
  refine ⟨fun _ _ => mem_runs_iff, runs_ordered bytes, fun k word rest hk => ?_, fun k hk => ?_,
    fun chunks' hne' hflat' k => ?_⟩
  · obtain ⟨hread, hrest⟩ := hdelivers.read k
    rw [hk] at hread hrest
    exact ⟨hread ▸ decode_spells word, hrest⟩
  · obtain ⟨hread, hrest⟩ := hdelivers.read k
    rw [List.getElem?_eq_none hk] at hread hrest
    exact ⟨hread.trans decode_nil, hrest⟩
  · have hdelivers' : (ofChunks chunks').Delivers bytes := ⟨chunks', hne', hflat', rfl⟩
    exact ⟨(hdelivers.read k).1.trans (hdelivers'.read k).1.symm,
      (hdelivers.after k).bytes_eq.trans (hdelivers'.after k).bytes_eq.symm⟩

/-- A word cut inside a character, and a byte that is no text. -/
theorem reads_independent_of_chunks_split :
    (∀ c ∈ [[0x6E, 0xC3], [0xA9, 0x20], [(0xFF : UInt8)]], c ≠ []) ∧
      Spells [0x6E, 0xC3, 0xA9] (ofChunks [[0x6E, 0xC3], [0xA9, 0x20], [0xFF]]).token.1 ∧
      ((ofChunks [[0x6E, 0xC3], [0xA9, 0x20], [0xFF]]).after 1).bytes = [0x20, 0xFF] ∧
      ((ofChunks [[0x6E, 0xC3], [0xA9, 0x20], [0xFF]]).after 2).token.1 = .ok "" := by
  obtain ⟨-, -, hword, hend, -⟩ := reads_independent_of_chunks [0x6E, 0xC3, 0xA9, 0x20, 0xFF]
    [[0x6E, 0xC3], [0xA9, 0x20], [0xFF]] (by decide) rfl
  have hruns : runs [0x6E, 0xC3, 0xA9, 0x20, 0xFF] =
      [([0x6E, 0xC3, 0xA9], [0x20, 0xFF]), ([0xFF], [])] := by cbv
  obtain ⟨hspells, hleft⟩ := hword 0 [0x6E, 0xC3, 0xA9] [0x20, 0xFF] (by rw [hruns]; rfl)
  exact ⟨by decide, hspells, hleft, (hend 2 (by rw [hruns]; decide)).1⟩

end Source

end Builtins
