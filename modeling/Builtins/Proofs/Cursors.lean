import Builtins.Proofs.Traversal

/-!
# Many cursors on one range

A range can be walked by any number of cursors at a time. Each of them can be pulled, made to skip
values or to hand out several at once, and forked in the middle of its walk. A cursor ends in one of
three ways (its range has no values, a pull fails, or the next position is no word), and in the last
one its position is stale; what is left is computed from the position all the same.

* `Walker`: a cursor together with its history, which a fork takes over.
* `take_values`: what a cursor hands out; `nth` and `next` ask for values in the same way.
* `Inv`: the invariant of a walker; `inv_pull`, `inv_spent` for one pull and `inv_take` for many.
* `reachable_cursor_exact`: every cursor that can come up is exact, and calls of one leave the others
  alone.
-/
namespace Builtins.Range

namespace Cursor

/-! ## Calls -/

/-- What a cursor can be asked to do. -/
inductive Call where
  | next
  | nth (n : Nat)
  | take (n : Nat)
  deriving DecidableEq, Repr

/-- How many values a call asks for: `nth n` skips `n` and pulls one. -/
def Call.demand : Call → Nat
  | next => 1
  | nth n => n + 1
  | take n => n

/-- The cursor after a call. -/
def Call.move : Call → Cursor → Cursor
  | next, c => c.next.2
  | nth n, c => (c.nth n).2
  | take n, c => (c.take n).2

theorem take_of_some {c d : Cursor} {w : Word} (h : c.next = (some w, d)) (n : Nat) :
    c.take (n + 1) = (w :: (d.take n).1, (d.take n).2) := by
  simp [take, h]

theorem take_of_none {c d : Cursor} (h : c.next = (none, d)) (n : Nat) : c.take (n + 1) = ([], d) := by
  simp [take, h]

/-- Skipping `n` values and pulling one is taking `n + 1` values and keeping the last. -/
theorem nth_eq_take (n : Nat) (c : Cursor) :
    c.nth n = ((c.take (n + 1)).1[n]?, (c.take (n + 1)).2) := by
  induction n generalizing c with
  | zero =>
    rcases h : c.next with ⟨_ | w, d⟩
    · rw [take_of_none h]
      simp [nth, h]
    · rw [take_of_some h]
      simp [nth, take, h]
  | succ n ih =>
    rcases h : c.next with ⟨_ | w, d⟩
    · rw [take_of_none h]
      simp [nth, h]
    · rw [take_of_some h]
      simp [nth, h, ih d]

theorem next_eq_take (c : Cursor) : c.next = ((c.take 1).1[0]?, (c.take 1).2) := nth_eq_take 0 c

/-- Every call moves a cursor as if the values that it asks for were taken. -/
theorem Call.move_eq_take (a : Call) (c : Cursor) : a.move c = (c.take a.demand).2 := by
  cases a with
  | next => exact congrArg Prod.snd c.next_eq_take
  | nth n => exact congrArg Prod.snd (nth_eq_take n c)
  | take n => rfl

/-! ## What a cursor hands out -/

variable {r : Range} {c : Cursor} {p : Nat}

/-- A cursor that is not done stands at the value that comes next. -/
theorem At.position_eq (h : At r p c) (hd : ¬ c.done = true) : c.position.toInt = r.value p := by
  rcases h.position with hpos | ⟨-, -, -, hdone⟩
  · exact hpos
  · exact absurd hdone hd

theorem take_values (h : At r p c) (n : Nat) :
    (c.take n).1.map Int64.toInt = (List.range' p (min n (r.count - p))).map r.value := by
  induction n generalizing c p with
  | zero => simp [take]
  | succ n ih =>
    rcases Nat.lt_or_ge p r.count with hp | hp
    · obtain ⟨w, hw, hv, hnext⟩ := next_of_lt h hp
      rw [take_of_some (Prod.ext hw rfl), List.map_cons, hv, ih hnext,
        show min (n + 1) (r.count - p) = min n (r.count - (p + 1)) + 1 by omega, List.range'_succ,
        List.map_cons]
    · obtain rfl : p = r.count := Nat.le_antisymm h.le hp
      rw [take_of_none (next_of_eq h).1]
      simp

theorem length_take (h : At r p c) (n : Nat) :
    (c.take n).1.length = min n (r.count - p) := by
  have := congrArg List.length (take_values h n)
  simpa using this

/-- The value at place `n` is handed out if it has not been passed. -/
theorem nth_value (h : At r p c) (n : Nat) :
    (c.nth n).1.map Int64.toInt = if p + n < r.count then some (r.value (p + n)) else none := by
  rw [nth_eq_take, ← List.getElem?_map, take_values h, List.getElem?_map]
  split
  · next hn => rw [List.getElem?_range' (by omega), Option.map_some, Nat.one_mul]
  · next hn => rw [List.getElem?_eq_none (by simp only [List.length_range']; omega), Option.map_none]

/-- The count from the position is the number of values that have not been pulled, also when the
position is stale. -/
theorem remaining_eq (h : At r p c) : c.remaining.toNat = r.count - p := by
  by_cases hd : c.done = true
  · have := h.done hd
    simp [remaining, hd, this]
  · have hlt : ∀ k, k < c.remaining.toNat ↔ k < r.count - p := by
      intro k
      have hvalue : r.value p + k * r.step.toInt = r.value (p + k) := by
        unfold value
        push_cast
        ring
      rw [remaining, if_neg hd, h.stop, h.step, lt_stepsLeft_iff r.step_ne_zero, h.position_eq hd, hvalue,
        ← lt_count_iff]
      omega
    have h1 := hlt c.remaining.toNat
    have h2 := hlt (r.count - p)
    omega

/-! ## When a cursor is done -/

/-- A pull that succeeds leaves the cursor done exactly if the next position is no word. -/
theorem next_done_iff {d : Cursor} {w : Word} (h : c.next = (some w, d)) :
    d.done = true ↔ ¬ Word.Fits (c.position.toInt + c.step.toInt) := by
  unfold next at h
  split at h
  · cases h
  · next hgo =>
    have hdone : c.done = false := by
      cases hd : c.done with
      | false => rfl
      | true => simp [hd] at hgo
    split at h
    · next q hq =>
      cases h
      have hfits := Word.fits_toInt q
      rw [Word.ofInt?_eq_some_iff.1 hq] at hfits
      simp [hdone, hfits]
    · next hn =>
      cases h
      simpa using Word.ofInt?_eq_none_iff.1 hn

/-- The invariant of a cursor from which `p` values have been pulled, and from which a pull has
failed or not. -/
structure Inv (r : Range) (p : Nat) (failed : Bool) (c : Cursor) : Prop where
  here : At r p c
  done_iff : c.done = true ↔ r.exhausted = true ∨ failed = true ∨ ¬ Word.Fits (r.value p)

variable {failed : Bool}

theorem inv_pull (hex : r.exhausted = true ↔ r.count = 0) (h : Inv r p failed c)
    (hp : p < r.count) : ∃ w d, c.next = (some w, d) ∧ Inv r (p + 1) failed d := by
  obtain ⟨w, hw, hv, hnext⟩ := next_of_lt h.here hp
  have hpull : c.next = (some w, c.next.2) := Prod.ext hw rfl
  have hopen : ¬ c.done = true := fun hd => by
    have := h.here.done hd
    omega
  refine ⟨w, c.next.2, hpull, hnext, ?_⟩
  rw [next_done_iff hpull, h.here.position_eq hopen, h.here.step, ← value_succ]
  -- with a value left the range has one, and no pull has failed
  have hfailed : ¬ failed = true := fun hf => hopen (h.done_iff.2 (.inr (.inl hf)))
  have hexhausted : ¬ r.exhausted = true := by
    rw [hex]
    omega
  simp [hfailed, hexhausted]

theorem inv_spent (h : Inv r r.count failed c) :
    ∃ d, c.next = (none, d) ∧ Inv r r.count true d := by
  obtain ⟨hnext, hat⟩ := next_of_eq h.here
  rw [hnext] at hat
  exact ⟨_, hnext, hat, by simp⟩

/-- Taking values keeps the invariant. A pull fails exactly if fewer come than were asked for. -/
theorem inv_take (hex : r.exhausted = true ↔ r.count = 0) (h : Inv r p failed c)
    (n : Nat) :
    Inv r (p + (c.take n).1.length) (failed || decide ((c.take n).1.length < n)) (c.take n).2 := by
  induction n generalizing c p with
  | zero => simpa [take] using h
  | succ n ih =>
    rcases Nat.lt_or_ge p r.count with hp | hp
    · obtain ⟨w, d, hnext, hd⟩ := inv_pull hex h hp
      have := ih hd
      rw [take_of_some hnext]
      simpa [Nat.add_assoc, Nat.add_comm 1] using this
    · obtain rfl : p = r.count := Nat.le_antisymm h.here.le hp
      obtain ⟨d, hnext, hd⟩ := inv_spent h
      rw [take_of_none hnext]
      simpa using hd

end Cursor

/-! ## Walkers -/

open Cursor (Call)

/-- A cursor with the history of it and of the cursors that it was forked from: how many values were
pulled, handed out or skipped, and whether a pull failed. -/
structure Walker where
  cursor : Cursor
  pulled : Nat
  failed : Bool
  deriving DecidableEq, Repr

/-- Makes a call. The values that it pulls are those that its demand gets. -/
def Walker.call (w : Walker) (a : Call) : Walker :=
  let values := (w.cursor.take a.demand).1
  ⟨a.move w.cursor, w.pulled + values.length, w.failed || decide (values.length < a.demand)⟩

/-- What can be done with the walkers of a range: start a new one, copy one, make a call of one. -/
inductive Move where
  | start
  | fork (i : Nat)
  | call (i : Nat) (a : Call)
  deriving DecidableEq, Repr

/-- The walkers after a move; new ones come last. -/
def moved (r : Range) (ws : List Walker) : Move → List Walker
  | .start => ws ++ [⟨r.cursor, 0, false⟩]
  | .fork i => ws ++ ws[i]?.toList
  | .call i a => ws.modify i (·.call a)

/-- The walkers after some moves, from none. -/
def walkers (r : Range) (moves : List Move) : List Walker := moves.foldl r.moved []

/-- A walker of a range with `n` values that is where its history says: what it hands out next, what
it counts as left, where it stands and whether it is done follow from the number of values that were
pulled and from whether a pull failed. -/
structure Exact (r : Range) (n : Nat) (w : Walker) : Prop where
  pulled_le : w.pulled ≤ n
  next : w.cursor.next.1.map Int64.toInt =
    if w.pulled < n then some (r.value w.pulled) else none
  nth : ∀ m, (w.cursor.nth m).1.map Int64.toInt =
      (if w.pulled + m < n then some (r.value (w.pulled + m)) else none) ∧
    (w.call (.nth m)).pulled = if w.pulled + m < n then w.pulled + m + 1 else n
  take : ∀ m, (w.cursor.take m).1.map Int64.toInt =
      (List.range' w.pulled (min m (n - w.pulled))).map r.value ∧
    (w.call (.take m)).pulled = w.pulled + min m (n - w.pulled)
  hint : w.cursor.sizeHint.1.toNat = n - w.pulled ∧
    w.cursor.sizeHint.2.map UInt64.toNat = some (n - w.pulled)
  position : Word.Fits (r.value w.pulled) → w.cursor.position.toInt = r.value w.pulled
  stale : ¬ Word.Fits (r.value w.pulled) →
    w.pulled = n ∧ 0 < n ∧ w.cursor.done = true ∧ w.cursor.position.toInt = r.value (n - 1)
  done : w.cursor.done = true ↔
    r.exhausted = true ∨ w.failed = true ∨ ¬ Word.Fits (r.value w.pulled)

variable {r : Range} {start stop step : Word}

theorem exact_of_inv {w : Walker} (h : Cursor.Inv r w.pulled w.failed w.cursor) :
    Exact r r.count w where
  pulled_le := h.here.le
  next := by simpa [Cursor.nth] using Cursor.nth_value h.here 0
  nth m := by
    refine ⟨Cursor.nth_value h.here m, ?_⟩
    have := h.here.le
    simp only [Walker.call, Call.demand, Cursor.length_take h.here]
    split <;> omega
  take m := by
    refine ⟨Cursor.take_values h.here m, ?_⟩
    simp only [Walker.call, Call.demand, Cursor.length_take h.here]
  hint := by
    have := Cursor.remaining_eq h.here
    exact ⟨this, congrArg some this⟩
  position hfits := by
    rcases h.here.position with hpos | ⟨hnot, -⟩
    · exact hpos
    · exact absurd hfits hnot
  stale hnot := by
    rcases h.here.position with hpos | ⟨-, h0, hpos, hdone⟩
    · exact absurd (hpos ▸ Word.fits_toInt _) hnot
    · have hp := h.here.done hdone
      exact ⟨hp, by omega, hdone, hp ▸ hpos⟩
  done := h.done_iff

/-! ## Runs -/

/-- All walkers satisfy the invariant. -/
def Sound (r : Range) (ws : List Walker) : Prop :=
  ∀ w ∈ ws, Cursor.Inv r w.pulled w.failed w.cursor

theorem inv_call (hex : r.exhausted = true ↔ r.count = 0) {w : Walker}
    (h : Cursor.Inv r w.pulled w.failed w.cursor) (a : Call) :
    Cursor.Inv r (w.call a).pulled (w.call a).failed (w.call a).cursor := by
  have := Cursor.inv_take hex h a.demand
  rwa [← a.move_eq_take] at this

theorem inv_start (start stop : Word) (hstep : step ≠ 0) :
    Cursor.Inv (build start stop step hstep) 0 false (build start stop step hstep).cursor where
  here := cursor_at start stop hstep
  done_iff := by
    have hfits : Word.Fits ((build start stop step hstep).value 0) := by
      simpa [value, build] using Word.fits_toInt start
    simp [hfits, cursor]

/-- One move keeps all walkers sound. -/
theorem sound_moved (hstep : step ≠ 0) {ws : List Walker} (h : Sound (build start stop step hstep) ws)
    (m : Move) : Sound (build start stop step hstep) (moved (build start stop step hstep) ws m) := by
  cases m with
  | start =>
    intro w hw
    rcases List.mem_append.1 hw with hw | hw
    · exact h w hw
    · obtain rfl := List.mem_singleton.1 hw
      exact inv_start start stop hstep
  | fork i =>
    intro w hw
    rcases List.mem_append.1 hw with hw | hw
    · exact h w hw
    · exact h w (List.mem_of_getElem? (Option.mem_toList.1 hw))
  | call i a =>
    intro w hw
    obtain ⟨j, hj⟩ := List.mem_iff_getElem?.1 hw
    rw [moved, List.getElem?_modify] at hj
    obtain ⟨v, hv, rfl⟩ := Option.map_eq_some_iff.1 hj
    have hinv := h v (List.mem_of_getElem? hv)
    split
    · exact inv_call (build_exhausted_iff hstep) hinv a
    · exact hinv

theorem sound_walkers (start stop : Word) (hstep : step ≠ 0) (moves : List Move) :
    Sound (build start stop step hstep) (walkers (build start stop step hstep) moves) := by
  unfold walkers
  induction moves using List.reverseRecOn with
  | nil => intro w hw; cases hw
  | append_singleton moves m ih =>
    rw [List.foldl_append]
    exact sound_moved hstep ih m

/-- A move changes no walker but the one that it calls. -/
theorem moved_other (r : Range) (ws : List Walker) (m : Move) {j : Nat} (hj : j < ws.length)
    (hm : ∀ a, m ≠ .call j a) : (r.moved ws m)[j]? = ws[j]? := by
  cases m with
  | start => exact List.getElem?_append_left hj
  | fork i => exact List.getElem?_append_left hj
  | call i a =>
    have hij : i ≠ j := fun he => hm a (he ▸ rfl)
    simp [moved, hij]

theorem new_ok_iff : new start stop step = .ok r ↔ ∃ hstep : step ≠ 0, r = build start stop step hstep := by
  unfold new
  split
  · next h => simp [h]
  · next h => simp [h, eq_comm]

/-- Every cursor on a range is exact, whatever was done with it and with the others: from any
finite sequence of starts, forks and calls, each cursor stands after the values that it and the
cursors it was forked from have handed out or skipped. A move leaves all cursors alone but the one
that it calls, and a fork has the state of its origin. -/
theorem reachable_cursor_exact (start stop step : Word) (r : Range)
    (h : new start stop step = .ok r) :
    ∃ n : Nat, {k : Nat | Before stop step (start.toInt + k * step.toInt)}.encard = n ∧
      ∀ moves : List Move,
        (∀ w ∈ r.walkers moves, Exact r n w) ∧
        (∀ (m : Move) (j : Nat), j < (r.walkers moves).length → (∀ a, m ≠ .call j a) →
          (r.moved (r.walkers moves) m)[j]? = (r.walkers moves)[j]?) ∧
        ∀ (i : Nat) (w : Walker), (r.walkers moves)[i]? = some w →
          (r.moved (r.walkers moves) (.fork i))[(r.walkers moves).length]? = some w ∧
          ∀ a : Call, (r.moved (r.walkers moves) (.call i a))[i]? = some (w.call a) := by
  obtain ⟨hstep, rfl⟩ := new_ok_iff.1 h
  refine ⟨(build start stop step hstep).count, encard_places (build start stop step hstep),
    fun moves => ⟨fun w hw => ?_, fun m j => moved_other _ _ m, fun i w hw => ⟨?_, fun a => ?_⟩⟩⟩
  · exact exact_of_inv (sound_walkers start stop hstep moves w hw)
  · simp [moved, hw]
  · simp [moved, hw]

/-- From the largest word down by the smallest there are two values. A cursor that skips the first
and hands out the second has nowhere to go, and so has its fork, from which no pull has failed. -/
theorem reachable_cursor_exact_stale :
    ∃ r w, new Int64.maxValue Int64.minValue Int64.minValue = .ok r ∧
      w ∈ r.walkers [.start, .call 0 (.nth 1), .fork 0, .call 0 .next] ∧
      w.pulled = 2 ∧ w.failed = false ∧ w.cursor.next.1.map Int64.toInt = none ∧
      w.cursor.sizeHint.1.toNat = 0 ∧ w.cursor.done = true ∧ w.cursor.position.toInt = -1 := by
  have hnew : new Int64.maxValue Int64.minValue Int64.minValue =
      .ok (build Int64.maxValue Int64.minValue Int64.minValue (by decide)) := by rfl
  obtain ⟨n, -, hall⟩ := reachable_cursor_exact _ _ _ _ hnew
  -- the hint of a fresh cursor tells how many values there are
  have hfresh := ((hall [.start]).1 _ (List.mem_singleton_self _)).hint.1
  obtain rfl : 2 = n := hfresh
  have hw := (hall [.start, .call 0 (.nth 1), .fork 0, .call 0 .next]).1
    ⟨⟨-1, Int64.minValue, Int64.minValue, true, by decide⟩, 2, false⟩ (by decide)
  have hstale := hw.stale (by decide)
  exact ⟨_, _, hnew, by decide, rfl, rfl, hw.next, hw.hint.1, hstale.2.2.1, hstale.2.2.2⟩

end Builtins.Range
