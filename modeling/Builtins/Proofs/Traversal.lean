import Builtins.Range
import Mathlib.Data.Set.Card
import Mathlib.Order.Interval.Finset.Nat
import Mathlib.Tactic.Ring

/-!
# Walking a range

A range has the values `start + k * step` for all `k` for which this lies before the stop, over the
integers. Three parts of the code have to agree on how many there are: the flag that is set when the
range is built, the length, which is a division rounded up and cut to 64 bits, and the cursor, which
stops at the first position that is not before the stop or no word.

* `lt_stepsLeft_iff`: the number of steps left counts the positions before the stop.
* `At`: the invariant of a cursor that has been pulled `p` times. A cursor whose next position is no
  word stays where it is and is done; all values have been pulled then.
* `next_of_lt`, `next_of_eq`: what one pull does, with `after_at` for any number of them.
-/
namespace Builtins

/-- `z` lies strictly before `stop` in the direction of `step`. -/
def Before (stop step : Word) (z : Int) : Prop :=
  if 0 < step.toInt then z < stop.toInt else stop.toInt < z

theorem pos_iff_toInt (w : Word) : 0 < w ↔ 0 < w.toInt := by
  rw [Int64.lt_iff_toInt_lt, Int64.toInt_zero]

theorem toInt_ne_zero {w : Word} (h : w ≠ 0) : w.toInt ≠ 0 := fun h0 =>
  h (Int64.toInt_inj.1 (h0.trans Int64.toInt_zero.symm))

/-! ## Counting the steps -/

/-- An integer that fits into 64 bits is not changed by cutting it to them. -/
theorem toNat_ofInt {z : Int} (h0 : 0 ≤ z) (h : z < 2 ^ 64) : (UInt64.ofInt z).toNat = z.toNat := by
  rw [UInt64.ofInt, Int.emod_eq_of_lt h0 h, UInt64.toNat_ofNat', Nat.mod_eq_of_lt]
  omega

/-- Division rounded up counts the multiples of the stride below the distance. -/
theorem lt_ceil_iff {distance stride : Int} (hs : 0 < stride) (k : Nat) :
    (k : Int) < (distance + stride - 1) / stride ↔ k * stride < distance := by
  rw [← Int.add_one_le_iff, Int.le_ediv_iff_mul_le hs, Int.add_mul]
  omega

/-- The distance of two words, and so the number of steps between them, fits into 64 bits. -/
theorem ceil_lt {distance stride : Int} (hd : distance < 2 ^ 64) (h0 : 0 < distance) (hs : 0 < stride) :
    (distance + stride - 1) / stride < 2 ^ 64 := by
  have hle : (distance + stride - 1) / stride ≤ distance := by
    rw [← Int.lt_add_one_iff, Int.ediv_lt_iff_lt_mul hs]
    have := Int.mul_le_mul_of_nonneg_left (show 1 ≤ stride by omega) (show 0 ≤ distance by omega)
    rw [Int.add_mul]
    omega
  omega

theorem lt_stepsLeft_iff {position stop step : Word} (hstep : step ≠ 0) (k : Nat) :
    k < (stepsLeft position stop step).toNat ↔ Before stop step (position.toInt + k * step.toInt) := by
  have hp := Word.fits_toInt position
  have hs := Word.fits_toInt stop
  have h0 := toInt_ne_zero hstep
  unfold Word.Fits at hp hs
  -- both directions come down to a distance and a positive stride
  have key : ∀ distance stride : Int, 0 < stride → distance < 2 ^ 64 →
      (k < (if distance ≤ 0 then 0 else UInt64.ofInt ((distance + stride - 1) / stride)).toNat ↔
        k * stride < distance) := by
    intro distance stride hstride hd
    split
    · next hneg =>
      have := Int.mul_nonneg (Int.natCast_nonneg k) (Int.le_of_lt hstride)
      simp only [UInt64.toNat_zero, Nat.not_lt_zero, false_iff]
      omega
    · next hpos =>
      have hnonneg : 0 ≤ (distance + stride - 1) / stride := Int.ediv_nonneg (by omega) (by omega)
      rw [toNat_ofInt hnonneg (ceil_lt hd (by omega) hstride), ← lt_ceil_iff hstride]
      omega
  unfold stepsLeft Before
  simp only [pos_iff_toInt]
  split
  · next hpos =>
    rw [key _ _ hpos (by omega)]
    omega
  · next hneg =>
    rw [key _ _ (by omega) (by omega), show (k : Int) * -step.toInt = -(k * step.toInt) by ring]
    omega

namespace Range

/-- The value at place `k`, over the integers. -/
def value (r : Range) (k : Nat) : Int := r.start.toInt + k * r.step.toInt

/-- The number of values. -/
def count (r : Range) : Nat := (stepsLeft r.start r.stop r.step).toNat

variable {r : Range} {start stop step : Word}

theorem lt_count_iff {k : Nat} : k < r.count ↔ Before r.stop r.step (r.value k) :=
  lt_stepsLeft_iff r.step_ne_zero k

theorem value_succ (r : Range) (k : Nat) : r.value (k + 1) = r.value k + r.step.toInt := by
  unfold value
  push_cast
  ring

/-- The flag that is set when a range is built says whether it has no values. -/
theorem build_exhausted_iff (hstep : step ≠ 0) :
    (build start stop step hstep).exhausted = true ↔ (build start stop step hstep).count = 0 := by
  have h0 := toInt_ne_zero hstep
  have hfirst : 0 < (build start stop step hstep).count ↔ Before stop step start.toInt := by
    have := lt_count_iff (r := build start stop step hstep) (k := 0)
    simpa [value, build] using this
  rw [← Nat.le_zero, ← Nat.not_lt, hfirst]
  simp only [build, Before, Bool.or_eq_true, beq_iff_eq, gt_iff_lt, decide_eq_decide,
    Int64.lt_iff_toInt_lt, Int64.toInt_zero, ← Int64.toInt_inj]
  split <;> omega

theorem build_length (hstep : step ≠ 0) :
    (build start stop step hstep).length.toNat = (build start stop step hstep).count := by
  unfold length
  split
  · next h => rw [(build_exhausted_iff hstep).1 h, UInt64.toNat_zero]
  · rfl

theorem isEmpty_iff : r.isEmpty = true ↔ r.length.toNat = 0 := by
  rw [isEmpty, beq_iff_eq, ← UInt64.toNat_inj, UInt64.toNat_zero]

/-! ## Pulling values -/

namespace Cursor

/-- The cursor after `n` pulls. -/
def after : Nat → Cursor → Cursor
  | 0, c => c
  | n + 1, c => (after n c).next.2

/-- A cursor of the range from which `p` values have been pulled. Its position is the value at place
`p`, or the last value when the value at place `p` is no word. -/
structure At (r : Range) (p : Nat) (c : Cursor) : Prop where
  stop : c.stop = r.stop
  step : c.step = r.step
  le : p ≤ r.count
  position : c.position.toInt = r.value p ∨
    ¬ Word.Fits (r.value p) ∧ 0 < p ∧ c.position.toInt = r.value (p - 1) ∧ c.done = true
  done : c.done = true → p = r.count

variable {c : Cursor} {p : Nat}

theorem beforeStop_iff : c.beforeStop = true ↔ Before c.stop c.step c.position.toInt := by
  simp only [beforeStop, Before, pos_iff_toInt]
  split <;> simp only [decide_eq_true_eq, Int64.lt_iff_toInt_lt]

/-- A step out of the range of words is a step past the stop. -/
theorem not_before_of_not_fits {z : Int} (hz : Word.Fits z) (h : ¬ Word.Fits (z + step.toInt)) :
    ¬ Before stop step (z + step.toInt) := by
  have hs := Word.fits_toInt stop
  unfold Word.Fits at hz h hs
  unfold Before
  split <;> omega

theorem next_of_lt (h : At r p c) (hp : p < r.count) :
    ∃ w, c.next.1 = some w ∧ w.toInt = r.value p ∧ At r (p + 1) c.next.2 := by
  have hdone : c.done = false := by
    cases hd : c.done with
    | false => rfl
    | true => exact absurd (h.done hd) (by omega)
  have hpos : c.position.toInt = r.value p := by
    rcases h.position with hpos | ⟨-, -, -, hd⟩
    · exact hpos
    · rw [hdone] at hd; cases hd
  have hbefore : c.beforeStop = true := by
    rw [beforeStop_iff, h.stop, h.step, hpos]
    exact lt_count_iff.1 hp
  have hsum : c.position.toInt + c.step.toInt = r.value (p + 1) := by
    rw [hpos, h.step, value_succ]
  unfold next
  rw [hdone, hbefore, if_neg (by simp)]
  cases hadd : c.position.add? c.step with
  | some q =>
    have hq : q.toInt = r.value (p + 1) := hsum ▸ Word.ofInt?_eq_some_iff.1 hadd
    exact ⟨c.position, rfl, hpos, ⟨h.stop, h.step, hp, .inl hq, fun hd => by cases hd⟩⟩
  | none =>
    have hfits : ¬ Word.Fits (r.value (p + 1)) := hsum ▸ Word.ofInt?_eq_none_iff.1 hadd
    refine ⟨c.position, rfl, hpos, ⟨h.stop, h.step, hp, .inr ⟨hfits, by omega, hpos, rfl⟩, fun _ => ?_⟩⟩
    have hlast : ¬ p + 1 < r.count := by
      rw [lt_count_iff, value_succ]
      exact not_before_of_not_fits (hpos ▸ Word.fits_toInt c.position) (value_succ r p ▸ hfits)
    omega

theorem next_of_eq (h : At r r.count c) :
    c.next = (none, { c with done := true }) ∧ At r r.count c.next.2 := by
  have hend : (c.done || !c.beforeStop) = true := by
    rcases h.position with hpos | ⟨-, -, -, hd⟩
    · have hnot : ¬ c.beforeStop = true := by
        rw [beforeStop_iff, h.stop, h.step, hpos, ← lt_count_iff]
        exact Nat.lt_irrefl _
      simp [hnot]
    · simp [hd]
  have hnext : c.next = (none, { c with done := true }) := by rw [next, if_pos hend]
  refine ⟨hnext, ?_⟩
  rw [hnext]
  exact ⟨h.stop, h.step, h.le, h.position.imp_right fun ⟨hf, h0, hv, _⟩ => ⟨hf, h0, hv, rfl⟩, fun _ => rfl⟩

/-- After `k` pulls all values have been pulled, or the first `k`. -/
theorem after_at (h : At r 0 c) (k : Nat) : At r (min k r.count) (c.after k) := by
  induction k with
  | zero => simpa [after] using h
  | succ k ih =>
    rcases Nat.lt_or_ge k r.count with hk | hk
    · rw [Nat.min_eq_left (Nat.le_of_lt hk)] at ih
      rw [Nat.min_eq_left hk]
      obtain ⟨_, -, -, hnext⟩ := next_of_lt ih hk
      exact hnext
    · rw [Nat.min_eq_right hk] at ih
      rw [Nat.min_eq_right (by omega)]
      exact (next_of_eq ih).2

end Cursor

theorem cursor_at (start stop : Word) {step : Word} (hstep : step ≠ 0) :
    Cursor.At (build start stop step hstep) 0 (build start stop step hstep).cursor where
  stop := rfl
  step := rfl
  le := Nat.zero_le _
  position := .inl (by simp [cursor, value])
  done h := ((build_exhausted_iff hstep).1 h).symm

/-- The places of the values are the first ones, as many as there are values. -/
theorem encard_places (r : Range) :
    {k : Nat | Before r.stop r.step (r.value k)}.encard = r.count := by
  have hset : {k : Nat | Before r.stop r.step (r.value k)} = (Finset.range r.count : Set Nat) := by
    ext k
    simp [← lt_count_iff]
  rw [hset, Set.encard_coe_eq_coe_finsetCard, Finset.card_range]

/-- Walking a range yields the values `start + k * step`, as many as lie before the stop, in this
order, and nothing after them; their number is below `2 ^ 64` and is the length of the range, and
the range is exhausted, and empty, exactly if there are none. -/
theorem traversal_yields_progression (start stop step : Word) (hstep : step ≠ 0) :
    ∃ (r : Range) (n : Nat), new start stop step = .ok r ∧
      {k : Nat | Before stop step (start.toInt + k * step.toInt)}.encard = n ∧
      (∀ k < n, (r.cursor.after k).next.1.map Int64.toInt = some (start.toInt + k * step.toInt)) ∧
      (∀ k ≥ n, (r.cursor.after k).next.1 = none) ∧
      n < 2 ^ 64 ∧ r.length.toNat = n ∧ (r.exhausted = true ↔ n = 0) ∧ (r.isEmpty = true ↔ n = 0) := by
  have hat := cursor_at start stop hstep
  refine ⟨build start stop step hstep, (build start stop step hstep).count, by rw [new, dif_neg hstep],
    encard_places (build start stop step hstep), fun k hk => ?_, fun k hk => ?_,
    UInt64.toNat_lt _, build_length hstep, build_exhausted_iff hstep, ?_⟩
  · have hk' := Cursor.after_at hat k
    rw [Nat.min_eq_left (Nat.le_of_lt hk)] at hk'
    obtain ⟨w, hw, hv, -⟩ := Cursor.next_of_lt hk' hk
    rw [hw, Option.map_some, hv]
    rfl
  · have hk' := Cursor.after_at hat k
    rw [Nat.min_eq_right hk] at hk'
    rw [(Cursor.next_of_eq hk').1]
  · rw [isEmpty_iff, build_length hstep]

/-- From the largest word down by the smallest: two values, after which the position would be no
word. -/
theorem traversal_yields_progression_extreme :
    Int64.minValue ≠ 0 ∧ ∃ r, new Int64.maxValue Int64.minValue Int64.minValue = .ok r ∧
      r.length = 2 ∧ (r.cursor.after 1).next.1.map Int64.toInt = some (-1) ∧
      (r.cursor.after 2).next.1 = none := by
  have hmin : Int64.minValue ≠ 0 := by decide
  obtain ⟨r, n, hr, -, hyield, hend, -, hlen, -⟩ :=
    traversal_yields_progression Int64.maxValue Int64.minValue Int64.minValue hmin
  obtain rfl : build Int64.maxValue Int64.minValue Int64.minValue (by decide) = r := by
    simpa [new, hmin] using hr
  obtain rfl : 2 = n := by rw [← hlen]; decide
  exact ⟨hmin, _, hr, by decide, hyield 1 (by decide), hend 2 (by decide)⟩

end Range

end Builtins
