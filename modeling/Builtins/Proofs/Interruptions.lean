import Builtins.Proofs.Tokens
import Mathlib.Data.List.DropRight

/-!
# Reading up to an end or a failure

A source can report the end of its input or fail between any two chunks, and more can follow. A read
looks at the chunks before that, its leading chunks, as one sequence of bytes. If a word ends among
them, the read takes it and leaves the rest. If not, it uses them up and meets what comes next: the end
of the input ends the word, and a failure loses it.

* `leading`, `behind`: the leading chunks and the fills behind them.
* `absorb_stopped`, `absorb_through`: which word a pass over the bytes takes.
* `collect_leading_stopped`, `collect_leading_through`: the same for a read over the fills;
  `collect_taken`: what it uses up.
* `turns`: the loop of a read, byte by byte and fill by fill, for a limited number of turns.
* `read_by_leading_chunks`: all that a read can come to, and that the loop comes to it.
-/
namespace Builtins.Source

/-! ## The leading chunks -/

/-- The chunks up to the first fill that is empty or fails. -/
def leading : List Fill → List (List UInt8)
  | .data (b :: bs) :: rest => (b :: bs) :: leading rest
  | _ => []

/-- The fills behind the leading chunks. -/
def behind : List Fill → List Fill
  | .data (_ :: _) :: rest => behind rest
  | fills => fills

/-- Fills with no leading chunks: there are none, or the first one reports the end of the input or a
failure. -/
def Interrupted (fills : List Fill) : Prop :=
  fills = [] ∨ (∃ rest, fills = .data [] :: rest) ∨ ∃ text rest, fills = .failure text :: rest

theorem leading_append_behind (fills : List Fill) :
    fills = (leading fills).map .data ++ behind fills := by
  fun_induction leading fills with
  | case1 b bs rest ih => rw [List.map_cons, List.cons_append, behind, ← ih]
  | case2 fills hfills => rw [behind.eq_2 _ hfills, List.map_nil, List.nil_append]

theorem leading_ne_nil {fills : List Fill} : ∀ c ∈ leading fills, c ≠ [] := by
  fun_induction leading fills with
  | case1 b bs rest ih =>
    intro c hc
    rcases List.mem_cons.1 hc with rfl | hc
    · exact List.cons_ne_nil b bs
    · exact ih c hc
  | case2 => simp

theorem interrupted_behind (fills : List Fill) : Interrupted (behind fills) := by
  fun_induction behind fills with
  | case1 b bs rest ih => exact ih
  | case2 fills hfills =>
    match fills, hfills with
    | [], _ => exact .inl rfl
    | .data [] :: rest, _ => exact .inr (.inl ⟨rest, rfl⟩)
    | .data (b :: bs) :: rest, hfills => exact absurd rfl (hfills b bs rest)
    | .failure text :: rest, _ => exact .inr (.inr ⟨text, rest, rfl⟩)

/-! ## Words that end -/

/-- A word of the bytes with a separator behind it. -/
def IsEnded (bytes word rest : List UInt8) : Prop := IsRun bytes word rest ∧ rest ≠ []

/-- The first of them, which has the most bytes behind it. -/
def IsFirstEnded (bytes word rest : List UInt8) : Prop :=
  IsEnded bytes word rest ∧ ∀ word' rest', IsEnded bytes word' rest' → rest'.length ≤ rest.length

/-- The bytes behind the last separator. -/
def trailing (bytes : List UInt8) : List UInt8 := bytes.rtakeWhile (!isSeparator ·)

/-- A pass without a token skips separators, takes the word behind them and leaves the rest. -/
theorem absorb_fresh (bytes : List UInt8) :
    absorb [] bytes = ((bytes.dropWhile isSeparator).takeWhile (!isSeparator ·),
      (bytes.dropWhile isSeparator).dropWhile (!isSeparator ·)) := rfl

/-- The run that a pass takes has the most bytes behind it. -/
theorem length_le_absorb {bytes word rest : List UInt8} (h : IsRun bytes word rest) :
    rest.length ≤ (absorb [] bytes).2.length := by
  have hmem := mem_runs_iff.2 h
  have hordered := runs_ordered bytes
  rw [absorb_eq_run]
  cases hruns : runs bytes with
  | nil =>
    rw [hruns] at hmem
    cases hmem
  | cons run later =>
    rw [hruns] at hmem hordered
    rcases List.mem_cons.1 hmem with rfl | hmem
    · exact Nat.le_refl _
    · exact Nat.le_of_lt ((List.pairwise_cons.1 hordered).1 _ hmem)

theorem absorb_stopped {bytes : List UInt8} (h : (absorb [] bytes).2 ≠ []) :
    IsFirstEnded bytes (absorb [] bytes).1 (absorb [] bytes).2 := by
  refine ⟨⟨mem_runs_iff.1 ?_, h⟩, fun _ _ hended => length_le_absorb hended.1⟩
  rw [absorb_eq_run] at h ⊢
  cases hruns : runs bytes with
  | nil => simp [hruns] at h
  | cons run later => exact List.mem_cons_self

/-- A pass that uses up all the bytes takes those behind the last separator. -/
theorem absorb_through {bytes : List UInt8} (h : (absorb [] bytes).2 = []) :
    (absorb [] bytes).1 = trailing bytes := by
  rw [absorb_fresh] at h ⊢
  have hword : ∀ b ∈ bytes.dropWhile isSeparator, (!isSeparator b) = true :=
    List.dropWhile_eq_nil_iff.1 h
  have hskipped : (bytes.takeWhile isSeparator).rtakeWhile (!isSeparator ·) = [] := by
    refine List.rtakeWhile_eq_nil_iff.2 fun hne => ?_
    simpa using List.mem_takeWhile_imp (List.getLast_mem hne)
  rw [List.takeWhile_eq_self_iff.2 hword, trailing]
  conv => rhs; rw [← List.takeWhile_append_dropWhile (p := isSeparator) (l := bytes)]
  rw [List.rtakeWhile, List.reverse_append,
    List.takeWhile_append_of_pos fun b hb => hword b (List.mem_reverse.1 hb), List.reverse_append,
    List.reverse_reverse, ← List.rtakeWhile, hskipped, List.nil_append]

theorem absorb_stopped_iff {bytes : List UInt8} :
    (absorb [] bytes).2 ≠ [] ↔ ∃ word rest, IsEnded bytes word rest := by
  constructor
  · exact fun h => ⟨_, _, (absorb_stopped h).1⟩
  · rintro ⟨word, rest, hrun, hne⟩ hnil
    have hle := length_le_absorb hrun
    rw [hnil, List.length_nil, Nat.le_zero, List.length_eq_zero_iff] at hle
    exact hne hle

theorem absorb_parts (bytes : List UInt8) :
    bytes = bytes.takeWhile isSeparator ++ (absorb [] bytes).1 ++ (absorb [] bytes).2 := by
  rw [absorb_fresh, List.append_assoc, List.takeWhile_append_dropWhile, List.takeWhile_append_dropWhile]

/-! ## A read -/

/-- A read in whose leading chunks a word ends. -/
theorem collect_leading_stopped {fills : List Fill} (h : (absorb [] (leading fills).flatten).2 ≠ []) :
    ∃ left, CutAt (leading fills) (absorb [] (leading fills).flatten).2 left ∧
      collect [] fills =
        (.ok (absorb [] (leading fills).flatten).1, left.map .data ++ behind fills) := by
  have hcollect := collect_stopped leading_ne_nil h (behind fills)
  rwa [← leading_append_behind] at hcollect

/-- A read that uses its leading chunks up. -/
theorem collect_leading_through {fills : List Fill} (h : (absorb [] (leading fills).flatten).2 = []) :
    collect [] fills = collect (trailing (leading fills).flatten) (behind fills) := by
  have hcollect := collect_absorbed leading_ne_nil h (behind fills)
  rwa [← leading_append_behind, absorb_through h] at hcollect

/-- A read that gives a word uses up the separators in front of it and the word, and nothing else. -/
theorem collect_taken {fills : List Fill} {word : List UInt8} (h : (collect [] fills).1 = .ok word) :
    ∃ blanks, (∀ b ∈ blanks, isSeparator b = true) ∧
      fills.flatMap Fill.bytes = blanks ++ word ++ (collect [] fills).2.flatMap Fill.bytes := by
  have hdata : ∀ chunks : List (List UInt8), (chunks.map Fill.data).flatMap Fill.bytes = chunks.flatten :=
    bytes_ofChunks
  have hfills : fills.flatMap Fill.bytes =
      (leading fills).flatten ++ (behind fills).flatMap Fill.bytes := by
    conv => lhs; rw [leading_append_behind fills]
    rw [List.flatMap_append, hdata]
  have hparts := absorb_parts (leading fills).flatten
  refine ⟨(leading fills).flatten.takeWhile isSeparator, fun b hb => List.mem_takeWhile_imp hb, ?_⟩
  rw [hfills]
  by_cases hleft : (absorb [] (leading fills).flatten).2 = []
  · rw [collect_leading_through hleft] at h ⊢
    rw [hleft, absorb_through hleft, List.append_nil] at hparts
    -- the end of the input has no bytes, and a failure gives no word
    rcases interrupted_behind fills with hb | ⟨rest, hb⟩ | ⟨text, rest, hb⟩ <;> rw [hb] at h ⊢
    · obtain rfl := Except.ok.inj h
      rw [← hparts]
      rfl
    · obtain rfl := Except.ok.inj h
      rw [← hparts]
      rfl
    · cases h
  · obtain ⟨left, hcut, hcollect⟩ := collect_leading_stopped hleft
    rw [hcollect] at h ⊢
    obtain rfl := Except.ok.inj h
    rw [List.flatMap_append, hdata, hcut.flatten_eq, ← List.append_assoc, ← hparts]

/-! ## The loop -/

/-- Looks at the bytes of a fill one by one, after `used` of them: the token, the number of bytes that
are used up, and whether the token has ended. -/
def scan (token : List UInt8) (used : Nat) : List UInt8 → List UInt8 × Nat × Bool
  | [] => (token, used, false)
  | b :: bs =>
    if isSeparator b then
      if token = [] then scan token (used + 1) bs else (token, used, true)
    else scan (token ++ [b]) (used + 1) bs

/-- Takes bytes off a fill. -/
def consume (used : Nat) (bytes : List UInt8) (rest : List Fill) : List Fill :=
  if bytes.drop used = [] then rest else .data (bytes.drop used) :: rest

/-- A read in at most `n` turns, one for each time that it asks the source for bytes. -/
def turns : Nat → List UInt8 → List Fill → Option (Except Fault String × Source)
  | 0, _, _ => none
  | _ + 1, token, [] => some (decode token, ⟨[]⟩)
  | _ + 1, _, .failure text :: rest => some (.error (.io text), ⟨rest⟩)
  | n + 1, token, .data bytes :: rest =>
    if bytes = [] then some (decode token, ⟨rest⟩)
    else
      match scan token 0 bytes with
      | (token, used, true) => some (decode token, ⟨consume used bytes rest⟩)
      | (token, used, false) => turns n token (consume used bytes rest)

/-- Going byte by byte comes to what a pass comes to. -/
theorem scan_eq (token : List UInt8) (used : Nat) (bytes : List UInt8) :
    ∃ more, scan token used bytes =
        ((absorb token bytes).1, used + more, decide ((absorb token bytes).2 ≠ [])) ∧
      bytes.drop more = (absorb token bytes).2 := by
  induction bytes generalizing token used with
  | nil => exact ⟨0, by simp [scan]⟩
  | cons b bs ih =>
    rw [scan, absorb_cons]
    by_cases hb : isSeparator b = true
    · by_cases ht : token = []
      · obtain ⟨more, hscan, hdrop⟩ := ih token (used + 1)
        rw [if_pos hb, if_pos ht, if_pos hb, if_pos ht]
        exact ⟨more + 1, by rw [hscan, Nat.add_assoc, Nat.add_comm 1], hdrop⟩
      · rw [if_pos hb, if_neg ht, if_pos hb, if_neg ht]
        exact ⟨0, by simp⟩
    · obtain ⟨more, hscan, hdrop⟩ := ih (token ++ [b]) (used + 1)
      rw [if_neg hb, if_neg hb]
      exact ⟨more + 1, by rw [hscan, Nat.add_assoc, Nat.add_comm 1], hdrop⟩

/-- Every turn that does not end the loop uses up a fill, so one more turn than there are fills is
enough. The induction is on the fills. -/
theorem turns_eq (fills : List Fill) {n : Nat} (h : fills.length < n) (token : List UInt8) :
    turns n token fills =
      some ((collect token fills).1.bind decode, ⟨(collect token fills).2⟩) := by
  induction fills generalizing n token with
  | nil =>
    cases n with
    | zero => cases h
    | succ n => rfl
  | cons fill rest ih =>
    cases n with
    | zero => cases h
    | succ n =>
      cases fill with
      | failure text => rfl
      | data bytes =>
        rw [turns]
        by_cases hne : bytes = []
        · subst hne
          rfl
        · obtain ⟨used, hscan, hdrop⟩ := scan_eq token 0 bytes
          rw [Nat.zero_add] at hscan
          rw [if_neg hne, hscan, collect_data hne]
          by_cases hleft : (absorb token bytes).2 = []
          · have hrest : consume used bytes rest = rest := by rw [consume, hdrop, if_pos hleft]
            simp only [hleft, ne_eq, not_true_eq_false, decide_false, if_true, hrest]
            exact ih (Nat.lt_of_succ_lt_succ h) _
          · have hrest : consume used bytes rest = .data (absorb token bytes).2 :: rest := by
              rw [consume, hdrop, if_neg hleft]
            simp only [hleft, ne_eq, not_false_eq_true, decide_true, if_false, hrest]
            rfl

/-! ## Every read -/

/-- What a read comes to, for any fills. If a word ends among the bytes of the leading chunks, the read
takes the first such word and leaves all fills from the separator behind it on. If not, it uses the
leading chunks up. Then the end of the input, reported or not, gives the bytes behind the last
separator, and a failure is passed on; either is used up, and what comes later is left. A word is
given as text if it is text, and is used up in any case. The loop of a read ends after at most one turn
more than there are fills, and this is what it comes to. -/
theorem read_by_leading_chunks (s : Source) :
    let chunks := leading s.fills
    let later := behind s.fills
    let bytes := chunks.flatten
    s.fills = chunks.map .data ++ later ∧ (∀ c ∈ chunks, c ≠ []) ∧ Interrupted later ∧
      (∀ n, s.fills.length < n → turns n [] s.fills = some s.token) ∧
      ((∃ word rest, IsEnded bytes word rest) →
        ∃ word rest left, IsFirstEnded bytes word rest ∧ CutAt chunks rest left ∧
          Spells word s.token.1 ∧ s.token.2.fills = left.map .data ++ later) ∧
      ((¬ ∃ word rest, IsEnded bytes word rest) →
        (later = [] → Spells (trailing bytes) s.token.1 ∧ s.token.2.fills = []) ∧
        (∀ rest, later = .data [] :: rest →
          Spells (trailing bytes) s.token.1 ∧ s.token.2.fills = rest) ∧
        ∀ text rest, later = .failure text :: rest →
          s.token.1 = .error (.io text) ∧ s.token.2.fills = rest) := by
  intro chunks later bytes
  refine ⟨leading_append_behind s.fills, leading_ne_nil, interrupted_behind s.fills,
    fun n hn => turns_eq s.fills hn [], fun hended => ?_, fun hended => ?_⟩
  · have hstop := absorb_stopped_iff.2 hended
    obtain ⟨left, hcut, hcollect⟩ := collect_leading_stopped hstop
    refine ⟨_, _, left, absorb_stopped hstop, hcut, ?_, ?_⟩ <;> rw [Source.token, hcollect]
    exact decode_spells _
  · have hthrough : (absorb [] bytes).2 = [] := not_not.1 (absorb_stopped_iff.not.2 hended)
    have hcollect : collect [] s.fills = collect (trailing bytes) later :=
      collect_leading_through hthrough
    refine ⟨fun hlater => ?_, fun rest hlater => ?_, fun text rest hlater => ?_⟩ <;>
      rw [Source.token, hcollect, hlater]
    · exact ⟨decode_spells _, rfl⟩
    · exact ⟨decode_spells _, rfl⟩
    · exact ⟨rfl, rfl⟩

/-- Two words, the first of which is cut inside a character, and a failure behind the second. -/
def broken : Source :=
  ⟨[.data [0x20, 0x61, 0xC3], .data [0xA9, 0x0A, 0x62], .failure "lost", .data [0x63]]⟩

/-- The first read of it takes a word, and the second one fails and loses the other. -/
theorem read_by_leading_chunks_broken :
    (∃ word rest left, IsFirstEnded [0x20, 0x61, 0xC3, 0xA9, 0x0A, 0x62] word rest ∧
        CutAt [[0x20, 0x61, 0xC3], [0xA9, 0x0A, 0x62]] rest left ∧ Spells word broken.token.1 ∧
        broken.token.2.fills = left.map .data ++ [.failure "lost", .data [0x63]]) ∧
      broken.token.2.token.1 = .error (.io "lost") ∧
      broken.token.2.token.2.fills = [.data [0x63]] := by
  obtain ⟨-, -, -, -, hended, -⟩ := read_by_leading_chunks broken
  obtain ⟨-, -, -, -, -, hthrough⟩ := read_by_leading_chunks broken.token.2
  have hnone : ¬ ∃ word rest, IsEnded [0x0A, 0x62] word rest :=
    absorb_stopped_iff.not.1 (by decide)
  exact ⟨hended (absorb_stopped_iff.1 (by decide)),
    (hthrough hnone).2.2 "lost" [.data [0x63]] rfl⟩

end Builtins.Source
