import Builtins.Proofs.Scripts
import Mathlib.Data.List.Infix

/-!
# Programs on a bounded sink

A write that would take a sink over its limit fails, and a failed write ends the run. So a run on a
bounded sink is the run on an unlimited one, cut off at the first write that does not fit; whatever
would have gone wrong later does not happen.

* `fitting`, `excess?`: the writes before the first one that does not fit, and that one.
* `run_truncates`: a script on a bounded sink next to the script on an unlimited one, write by write.
* `Truncates.of_le`, `Truncates.of_lt`: what follows when all writes fit and when not.
* `bounded_run_truncates`: the same for the programs, whose output consists of whole lines.
-/
namespace Builtins

namespace Console

/-- The console with a limit on its sink. -/
def withLimit (c : Console) (limit : Nat) : Console :=
  { c with sink := { c.sink with limit := some limit } }

variable {c : Console} {limit : Nat}

theorem write_bounded (c : Console) (limit : Nat) (bytes : ByteArray) :
    (c.withLimit limit).write bytes =
      if c.sink.contents.size + bytes.size ≤ limit then (.ok (), (c.put bytes).withLimit limit)
      else (.error (.io "sink full"), c.withLimit limit) := by
  by_cases hfits : c.sink.contents.size + bytes.size ≤ limit
  · simp [write, Sink.write, Sink.admits, withLimit, put, hfits]
  · simp [write, Sink.write, Sink.admits, withLimit, hfits]

theorem print_bounded (h : c.sink.limit = none) (text : String) :
    (c.withLimit limit).print text =
      if c.sink.contents.size + (line text).size ≤ limit then
        ((c.print text).1, (c.print text).2.withLimit limit)
      else (.error (.io "sink full"), c.withLimit limit) := by
  rw [print_eq_write, write_bounded, print_unlimited h]

theorem ask_bounded (h : c.sink.limit = none) (prompt : String) :
    (c.withLimit limit).ask prompt =
      if c.sink.contents.size + (line prompt).size ≤ limit then
        ((c.ask prompt).1, (c.ask prompt).2.withLimit limit)
      else (.error (.io "sink full"), c.withLimit limit) := by
  by_cases hfits : c.sink.contents.size + (line prompt).size ≤ limit
  · have hprint : (c.withLimit limit).print prompt = (.ok (), (c.put (line prompt)).withLimit limit) := by
      rw [print_bounded h, if_pos hfits, print_unlimited h]
    rw [if_pos hfits, ask_of_print_ok hprint, ask_of_print_ok (print_unlimited h prompt)]
    -- neither flushing nor reading looks at the limit
    have hflush : ((c.put (line prompt)).withLimit limit).flush = (c.put (line prompt)).flush := rfl
    rw [hflush]
    cases (c.put (line prompt)).flush <;> rfl
  · rw [if_neg hfits, ask_of_print_error (by rw [print_bounded h, if_neg hfits])]

end Console

namespace Script

variable {α : Type}

/-! ## The writes that fit -/

/-- The writes that fit into `room` bytes, up to the first one that does not. -/
def fitting (room : Nat) : List ByteArray → List ByteArray
  | [] => []
  | w :: ws => if w.size ≤ room then w :: fitting (room - w.size) ws else []

/-- The first write that does not fit. -/
def excess? (room : Nat) : List ByteArray → Option ByteArray
  | [] => none
  | w :: ws => if w.size ≤ room then excess? (room - w.size) ws else some w

/-- The bytes of some writes. -/
def total (ws : List ByteArray) : Nat := (joined ws).size

@[simp] theorem total_nil : total [] = 0 := rfl

@[simp] theorem total_cons (w : ByteArray) (ws : List ByteArray) :
    total (w :: ws) = w.size + total ws := by
  simp [total]

theorem fitting_of_le {room : Nat} {ws : List ByteArray} (h : total ws ≤ room) :
    fitting room ws = ws ∧ excess? room ws = none := by
  induction ws generalizing room with
  | nil => exact ⟨rfl, rfl⟩
  | cons w ws ih =>
    rw [total_cons] at h
    have hrest : total ws ≤ room - w.size := by omega
    obtain ⟨hfit, hex⟩ := ih hrest
    rw [fitting, excess?, if_pos (by omega), if_pos (by omega), hfit, hex]
    exact ⟨rfl, rfl⟩

theorem excess_of_lt {room : Nat} {ws : List ByteArray} (h : room < total ws) :
    ∃ next, excess? room ws = some next ∧ fitting room ws ++ [next] <+: ws := by
  induction ws generalizing room with
  | nil => simp at h
  | cons w ws ih =>
    rw [fitting, excess?]
    split
    · next hw =>
      rw [total_cons] at h
      have hrest : room - w.size < total ws := by omega
      obtain ⟨next, hnext, hpre⟩ := ih hrest
      exact ⟨next, hnext, by simpa using hpre⟩
    · exact ⟨w, rfl, by simp⟩

theorem total_fitting_le (room : Nat) (ws : List ByteArray) : total (fitting room ws) ≤ room := by
  induction ws generalizing room with
  | nil => simp [fitting]
  | cons w ws ih =>
    rw [fitting]
    split
    · next hw =>
      have := ih (room - w.size)
      rw [total_cons]
      omega
    · simp

theorem fitting_isPrefix (room : Nat) (ws : List ByteArray) : fitting room ws <+: ws := by
  induction ws generalizing room with
  | nil => exact List.nil_prefix
  | cons w ws ih =>
    rw [fitting]
    split
    · exact List.cons_prefix_cons.2 ⟨rfl, ih _⟩
    · exact List.nil_prefix

/-- No longer beginning fits. -/
theorem prefix_fitting {room : Nat} {vs ws : List ByteArray} (h : vs <+: ws) (hv : total vs ≤ room) :
    vs <+: fitting room ws := by
  induction vs generalizing room ws with
  | nil => exact List.nil_prefix
  | cons v vs ih =>
    obtain ⟨rest, rfl⟩ := h
    rw [total_cons] at hv
    rw [List.cons_append, fitting, if_pos (by omega), List.cons_prefix_cons]
    exact ⟨rfl, ih (List.prefix_append vs rest) (by omega)⟩

/-! ## Scripts on a bounded sink -/

/-- How a run on a bounded sink that holds `stored` compares with the run on an unlimited one, which
writes `ws`: the writes that fit are stored, `attempts` has one more if not all of them fit, and that
one ends the run. -/
structure Truncates (limit : Nat) (stored : ByteArray) (ws attempts : List ByteArray)
    (free bounded : Outcome α) : Prop where
  attempts : attempts =
    fitting (limit - stored.size) ws ++ (excess? (limit - stored.size) ws).toList
  contents : bounded.console.sink.contents = stored ++ joined (fitting (limit - stored.size) ws)
  within : excess? (limit - stored.size) ws = none →
    bounded.result = free.result ∧ bounded.console.source = free.console.source
  beyond : excess? (limit - stored.size) ws ≠ none → bounded.result = .error (.io "sink full")

variable {limit : Nat} {c : Console} {w : ByteArray} {ws attempts : List ByteArray}
  {free bounded : Outcome α}

/-- Runs that end without another write end in the same way. -/
theorem truncates_ended (limit : Nat) (c : Console) (result : Except Fault α) (j : Log.Journal) :
    Truncates limit c.sink.contents [] [] ⟨result, c, j⟩ ⟨result, c.withLimit limit, j⟩ where
  attempts := rfl
  contents := by simp [fitting, Console.withLimit]
  within _ := ⟨rfl, rfl⟩
  beyond h := absurd rfl h

/-- A write that fits is stored, and the runs go on. -/
theorem truncates_write {stored : ByteArray} (hfits : stored.size + w.size ≤ limit)
    (h : Truncates limit (stored ++ w) ws attempts free bounded) :
    Truncates limit stored (w :: ws) (w :: attempts) free bounded := by
  have hroom : limit - (stored ++ w).size = limit - stored.size - w.size := by
    rw [ByteArray.size_append]
    omega
  have hw : w.size ≤ limit - stored.size := by omega
  obtain ⟨hattempts, hcontents, hwithin, hbeyond⟩ := h
  rw [hroom] at hattempts hcontents hwithin hbeyond
  constructor
  case attempts => rw [fitting, excess?, if_pos hw, if_pos hw, hattempts, List.cons_append]
  case contents => rw [hcontents, fitting, if_pos hw, joined_cons, ByteArray.append_assoc]
  case within => rwa [excess?, if_pos hw]
  case beyond => rwa [excess?, if_pos hw]

/-- A write that does not fit is refused, and the run ends. -/
theorem truncates_refused {stored : ByteArray} (hstored : bounded.console.sink.contents = stored)
    (hresult : bounded.result = .error (.io "sink full"))
    (hfits : ¬ stored.size + w.size ≤ limit) (hroom : stored.size ≤ limit) :
    Truncates limit stored (w :: ws) [w] free bounded := by
  have hw : ¬ w.size ≤ limit - stored.size := by omega
  constructor
  case attempts => rw [fitting, excess?, if_neg hw, if_neg hw]; rfl
  case contents => rw [fitting, if_neg hw, hstored, joined_nil, ByteArray.append_empty]
  case within => simp [excess?, hw]
  case beyond => exact fun _ => hresult

/-- The induction is on the script; each write either fits into both sinks or ends the bounded run. -/
theorem run_truncates (s : Script α) (h : c.sink.limit = none) (hroom : c.sink.contents.size ≤ limit)
    (j : Log.Journal) :
    Truncates limit c.sink.contents (s.writes c) (s.writes (c.withLimit limit)) (s.run c j)
      (s.run (c.withLimit limit) j) := by
  induction s generalizing c j with
  | done value => exact truncates_ended limit c (.ok value) j
  | fail fault => exact truncates_ended limit c (.error fault) j
  | note event times next ih => exact ih h hroom _
  | print text next ih =>
    simp only [writes, run, Console.print_bounded h, Console.print_unlimited h]
    by_cases hfits : c.sink.contents.size + (line text).size ≤ limit
    · simp only [if_pos hfits]
      refine truncates_write hfits ?_
      have hroom' : (c.put (line text)).sink.contents.size ≤ limit := by
        rw [Console.put_contents, ByteArray.size_append]
        exact hfits
      exact ih () (show (c.put (line text)).sink.limit = none from h) hroom' _
    · simp only [if_neg hfits]
      exact truncates_refused rfl rfl hfits hroom
  | ask prompt next ih =>
    simp only [writes, run, Console.ask_bounded h]
    by_cases hfits : c.sink.contents.size + (line prompt).size ≤ limit
    · simp only [if_pos hfits]
      refine truncates_write hfits ?_
      rcases ha : c.ask prompt with ⟨result, d⟩
      have hsink := Console.ask_sink_unlimited h ha
      have hroom' : d.sink.contents.size ≤ limit := by
        rw [hsink, Console.put_contents, ByteArray.size_append]
        exact hfits
      rw [← Console.put_contents, ← hsink]
      cases result with
      | error fault => exact truncates_ended limit d _ _
      | ok token => exact ih token (show d.sink.limit = none by rw [hsink]; exact h) hroom' _
    · simp only [if_neg hfits]
      exact truncates_refused rfl rfl hfits hroom
  | flush next ih =>
    have hflush : (c.withLimit limit).flush = c.flush := rfl
    simp only [writes, run, hflush]
    cases c.flush with
    | error fault => exact truncates_ended limit c _ _
    | ok u => exact ih () h hroom _

/-- If all writes fit, nothing is different. -/
theorem Truncates.of_le (h : Truncates limit ByteArray.empty ws attempts free bounded)
    (hle : total ws ≤ limit) :
    bounded.console.sink.contents = joined ws ∧ bounded.result = free.result ∧
      bounded.console.source = free.console.source ∧ attempts = ws := by
  obtain ⟨hfit, hex⟩ := fitting_of_le hle
  obtain ⟨hresult, hsource⟩ := h.within hex
  have hcontents : bounded.console.sink.contents = ByteArray.empty ++ joined (fitting limit ws) :=
    h.contents
  have hattempts : attempts = fitting limit ws ++ (excess? limit ws).toList := h.attempts
  rw [hfit, ByteArray.empty_append] at hcontents
  rw [hfit, hex, Option.toList_none, List.append_nil] at hattempts
  exact ⟨hcontents, hresult, hsource, hattempts⟩

/-- If not, the longest beginning that fits is stored, and one more write is attempted. -/
theorem Truncates.of_lt (h : Truncates limit ByteArray.empty ws attempts free bounded)
    (hlt : limit < total ws) :
    bounded.result = .error (.io "sink full") ∧
      ∃ fits next, fits ++ [next] <+: ws ∧ total fits ≤ limit ∧
        (∀ vs, vs <+: ws → total vs ≤ limit → vs <+: fits) ∧
        bounded.console.sink.contents = joined fits ∧ attempts = fits ++ [next] := by
  obtain ⟨next, hex, hpre⟩ := excess_of_lt hlt
  have hresult : bounded.result = .error (.io "sink full") := h.beyond (by simp [hex])
  have hcontents : bounded.console.sink.contents = ByteArray.empty ++ joined (fitting limit ws) :=
    h.contents
  have hattempts : attempts = fitting limit ws ++ (excess? limit ws).toList := h.attempts
  rw [ByteArray.empty_append] at hcontents
  rw [hex, Option.toList_some] at hattempts
  exact ⟨hresult, fitting limit ws, next, hpre, total_fitting_le limit ws,
    fun vs hvs hle => prefix_fitting hvs hle, hcontents, hattempts⟩

/-! ## Lines -/

/-- Bytes that consist of whole lines, each with a line feed at its end. -/
def WholeLines (bytes : List UInt8) : Prop :=
  ∃ lines : List (List UInt8), (∀ l ∈ lines, 0x0A ∉ l) ∧ bytes = lines.flatMap (· ++ [0x0A])

theorem wholeLines_append {xs ys : List UInt8} (hx : WholeLines xs) (hy : WholeLines ys) :
    WholeLines (xs ++ ys) := by
  obtain ⟨ls, hls, rfl⟩ := hx
  obtain ⟨ms, hms, rfl⟩ := hy
  refine ⟨ls ++ ms, fun l hl => ?_, by simp⟩
  rcases List.mem_append.1 hl with hl | hl
  · exact hls l hl
  · exact hms l hl

/-- Whatever ends with a line feed consists of whole lines. -/
theorem wholeLines_feed (bytes : List UInt8) : WholeLines (bytes ++ [0x0A]) := by
  induction bytes with
  | nil => exact ⟨[[]], by simp, rfl⟩
  | cons b bytes ih =>
    obtain ⟨ls, hls, hbytes⟩ := ih
    by_cases hb : b = 0x0A
    · exact ⟨[] :: ls, by simpa using hls, by simp [hbytes, hb]⟩
    · -- the byte goes in front of the first line
      cases ls with
      | nil => simp at hbytes
      | cons l ls =>
        refine ⟨(b :: l) :: ls, fun m hm => ?_, by simp [hbytes]⟩
        rcases List.mem_cons.1 hm with rfl | hm
        · simpa [Ne.symm hb] using hls l List.mem_cons_self
        · exact hls m (List.mem_cons_of_mem _ hm)

theorem wholeLines_joined {ws : List ByteArray} (h : ∀ w ∈ ws, ∃ text, w = line text) :
    WholeLines (joined ws).data.toList := by
  induction ws with
  | nil => exact ⟨[], by simp, rfl⟩
  | cons w ws ih =>
    obtain ⟨text, rfl⟩ := h w List.mem_cons_self
    rw [joined_cons, ByteArray.data_append, Array.toList_append, bytes_line]
    exact wholeLines_append (wholeLines_feed _) (ih fun w hw => h w (List.mem_cons_of_mem _ hw))

/-- Every write is a text and a line feed. -/
theorem mem_writes {s : Script α} {c : Console} {w : ByteArray} (h : w ∈ s.writes c) :
    ∃ text, w = line text := by
  induction s generalizing c with
  | done value => simp [writes] at h
  | fail fault => simp [writes] at h
  | note event times next ih => exact ih h
  | print text next ih =>
    rw [writes] at h
    rcases List.mem_cons.1 h with h | h
    · exact ⟨text, h⟩
    · split at h
      · exact ih _ h
      · cases h
  | ask prompt next ih =>
    rw [writes] at h
    rcases List.mem_cons.1 h with h | h
    · exact ⟨prompt, h⟩
    · split at h
      · exact ih _ h
      · cases h
  | flush next ih =>
    rw [writes] at h
    split at h
    · exact ih _ h
    · cases h

end Script

namespace Program

open Script

/-- A program on a bounded sink is the program on an unlimited one, cut off. If all its writes fit,
it writes the same, ends in the same way and leaves the same input. If not, it fails because the sink
is full, having stored the longest beginning of the writes that fits, and the write after that is the
last one that it attempts. Either way it has stored whole lines. -/
theorem bounded_run_truncates (program : Program) (p : Parameters) (source : Source) (limit : Nat)
    (journal : Log.Journal) :
    let free := program.run p ⟨{}, source⟩ journal
    let bounded := program.run p ⟨{ limit := some limit }, source⟩ journal
    let ws := (program.script p).writes ⟨{}, source⟩
    let attempts := (program.script p).writes ⟨{ limit := some limit }, source⟩
    free.console.sink = Sink.writeAll {} ws ∧ free.console.sink.contents = joined ws ∧
      bounded.console.sink = Sink.writeAll { limit := some limit } attempts ∧
      (total ws ≤ limit →
        bounded.console.sink.contents = free.console.sink.contents ∧
          bounded.result = free.result ∧ bounded.console.source = free.console.source ∧
          attempts = ws) ∧
      (limit < total ws →
        bounded.result = .error (.io "sink full") ∧
          ∃ fits next, fits ++ [next] <+: ws ∧ total fits ≤ limit ∧
            (∀ vs, vs <+: ws → total vs ≤ limit → vs <+: fits) ∧
            bounded.console.sink.contents = joined fits ∧ attempts = fits ++ [next]) ∧
      WholeLines bounded.console.sink.contents.data.toList := by
  intro free bounded ws attempts
  have hfree : free.console.sink.contents = ByteArray.empty ++ joined ws :=
    contents_run (program.script p) rfl _
  have hrun := run_truncates (program.script p) (c := ⟨{}, source⟩) rfl (Nat.zero_le limit)
    (journal.enter program.span)
  have h : Truncates limit ByteArray.empty ws attempts free bounded :=
    ⟨hrun.attempts, hrun.contents, hrun.within, hrun.beyond⟩
  rw [ByteArray.empty_append] at hfree
  refine ⟨sink_run _ _ _, hfree, sink_run _ _ _, fun hle => ?_, h.of_lt, ?_⟩
  · rw [hfree]
    exact h.of_le hle
  · rw [h.contents, ByteArray.empty_append]
    refine wholeLines_joined fun w hw => mem_writes (s := program.script p) (c := ⟨{}, source⟩) ?_
    exact (fitting_isPrefix _ ws).mem hw

end Program

end Builtins
