import Builtins.Proofs.Traversal

/-!
# Membership in a range

`contains` decides by a closed form whether a word is one of the values of a range: it compares the
word with the two bounds and takes the remainder of its distance from the start. A walk through the
range comes by the same words, one by one, and ends at the stop or where the next position is no
word.

* `Cursor.Yields`: all that a cursor hands out up to the first pull that fails.
* `yields_of_at`: a cursor hands out the values from its place on.
* `contains_iff_value`: the words in a range are its values.
* `contains_iff_yielded`: they are the words that a walk yields, each of them once.
-/
namespace Builtins.Range

variable {r : Range} {start stop step : Word}

/-! ## Whole walks -/

namespace Cursor

/-- The values that are pulled, one after another, until a pull fails. -/
inductive Yields : Cursor → List Word → Prop where
  | stop {c d : Cursor} (h : c.next = (none, d)) : Yields c []
  | pull {c d : Cursor} {w : Word} {ws : List Word} (h : c.next = (some w, d)) (rest : Yields d ws) :
    Yields c (w :: ws)

theorem yields_of_at {p : Nat} {c : Cursor} (h : At r p c) :
    ∃ ws, c.Yields ws ∧ ws.map Int64.toInt = (List.range' p (r.count - p)).map r.value := by
  -- the induction is on the number of values that are left
  induction hleft : r.count - p generalizing p c with
  | zero =>
    obtain rfl : p = r.count := Nat.le_antisymm h.le (by omega)
    exact ⟨[], .stop (next_of_eq h).1, rfl⟩
  | succ n ih =>
    obtain ⟨w, hw, hv, hnext⟩ := next_of_lt h (by omega)
    obtain ⟨ws, hws, hvalues⟩ := ih hnext (by omega)
    refine ⟨w :: ws, .pull (Prod.ext hw rfl) hws, ?_⟩
    rw [List.map_cons, hv, hvalues, List.range'_succ, List.map_cons]

end Cursor

/-! ## The closed form -/

/-- The bounds and the remainder, over the integers. -/
theorem contains_iff (r : Range) (w : Word) :
    r.contains w = true ↔ r.isEmpty = false ∧ ¬ Before r.start r.step w.toInt ∧
      Before r.stop r.step w.toInt ∧ r.step.toInt ∣ w.toInt - r.start.toInt := by
  unfold contains Before
  simp only [Bool.and_eq_true, Bool.not_eq_true', beq_iff_eq, pos_iff_toInt,
    ← Int.dvd_iff_tmod_eq_zero]
  split <;>
    simp only [Bool.and_eq_true, decide_eq_true_eq, Int64.lt_iff_toInt_lt, Int64.le_iff_toInt_le,
      Int.not_lt, and_assoc, and_left_comm]

theorem value_sub_start (r : Range) (k : Nat) : r.value k - r.start.toInt = r.step.toInt * k := by
  unfold value
  ring

/-- What lies a whole number of steps from the start, and not before it, is the value at some
place. -/
theorem exists_value_iff (z : Int) :
    (∃ k, z = r.value k) ↔
      ¬ Before r.start r.step z ∧ r.step.toInt ∣ z - r.start.toInt := by
  have h0 := toInt_ne_zero r.step_ne_zero
  constructor
  · rintro ⟨k, rfl⟩
    refine ⟨?_, k, value_sub_start r k⟩
    have hdistance := value_sub_start r k
    unfold Before
    split
    · next hpos =>
      have := Int.mul_nonneg (Int.le_of_lt hpos) (Int.natCast_nonneg k)
      omega
    · next hneg =>
      have := Int.mul_nonpos_of_nonpos_of_nonneg (Int.not_lt.1 hneg) (Int.natCast_nonneg k)
      omega
  · rintro ⟨hbehind, q, hq⟩
    -- in the direction of the step the quotient is not negative, so it is a place
    have hplace : 0 ≤ q := by
      by_contra hneg
      unfold Before at hbehind
      split at hbehind
      · next hpos =>
        have := Int.mul_neg_of_pos_of_neg hpos (Int.not_le.1 hneg)
        omega
      · next hpos =>
        have := Int.mul_pos_of_neg_of_neg (show r.step.toInt < 0 by omega) (Int.not_le.1 hneg)
        omega
    refine ⟨q.toNat, ?_⟩
    have hvalue := value_sub_start r q.toNat
    rw [Int.toNat_of_nonneg hplace] at hvalue
    omega

theorem contains_iff_value (hstep : step ≠ 0) (w : Word) :
    (build start stop step hstep).contains w = true ↔
      ∃ k < (build start stop step hstep).count, w.toInt = (build start stop step hstep).value k := by
  have hempty : (build start stop step hstep).isEmpty = false ↔ 0 < (build start stop step hstep).count := by
    rw [← Bool.not_eq_true, isEmpty_iff, build_length hstep]
    omega
  rw [contains_iff, hempty]
  constructor
  · rintro ⟨-, hbehind, hbefore, hdvd⟩
    obtain ⟨k, hk⟩ := (exists_value_iff _).2 ⟨hbehind, hdvd⟩
    exact ⟨k, lt_count_iff.2 (hk ▸ hbefore), hk⟩
  · rintro ⟨k, hlt, hk⟩
    obtain ⟨hbehind, hdvd⟩ := (exists_value_iff _).1 ⟨k, hk⟩
    exact ⟨by omega, hbehind, hk ▸ lt_count_iff.1 hlt, hdvd⟩

/-! ## Agreement -/

/-- Values at different places differ. -/
theorem value_injective : Function.Injective r.value := by
  intro j k h
  have hj := value_sub_start r j
  have hk := value_sub_start r k
  rw [h, hk] at hj
  have := Int.eq_of_mul_eq_mul_left (toInt_ne_zero r.step_ne_zero) hj
  omega

theorem nodup_of_values {ws : List Word} {n : Nat}
    (h : ws.map Int64.toInt = (List.range' 0 n).map r.value) : ws.Nodup := by
  apply List.Nodup.of_map Int64.toInt
  rw [h]
  exact List.Nodup.map value_injective List.nodup_range'

theorem mem_iff_of_values {ws : List Word} {n : Nat}
    (h : ws.map Int64.toInt = (List.range' 0 n).map r.value) (w : Word) :
    w ∈ ws ↔ ∃ k < n, w.toInt = r.value k := by
  have hmap : w ∈ ws ↔ w.toInt ∈ ws.map Int64.toInt := by
    simp only [List.mem_map, Int64.toInt_inj, exists_eq_right]
  rw [hmap, h]
  simp [List.mem_map, List.mem_range', eq_comm]

/-- A range contains exactly the words that a walk through it yields, and it yields each of them
once. -/
theorem contains_iff_yielded (start stop step : Word) (hstep : step ≠ 0) :
    ∃ r ws, new start stop step = .ok r ∧ r.cursor.Yields ws ∧
      ∀ w, (r.contains w = true ↔ w ∈ ws) ∧ (r.contains w = true → ws.count w = 1) := by
  obtain ⟨ws, hws, hvalues⟩ := Cursor.yields_of_at (cursor_at start stop hstep)
  have hmem : ∀ w, (build start stop step hstep).contains w = true ↔ w ∈ ws := fun w => by
    rw [contains_iff_value hstep, mem_iff_of_values hvalues, Nat.sub_zero]
  refine ⟨build start stop step hstep, ws, by rw [new, dif_neg hstep], hws, fun w => ⟨hmem w, fun h => ?_⟩⟩
  exact List.count_eq_one_of_mem (nodup_of_values hvalues) ((hmem w).1 h)

/-- From the largest word down by the smallest: `-1` is one of the two values, the stop is none. -/
theorem contains_iff_yielded_extreme :
    Int64.minValue ≠ 0 ∧ ∃ r ws, new Int64.maxValue Int64.minValue Int64.minValue = .ok r ∧
      r.cursor.Yields ws ∧ (-1 ∈ ws ∧ ws.count (-1) = 1) ∧ Int64.minValue ∉ ws := by
  have hmin : Int64.minValue ≠ 0 := by decide
  obtain ⟨r, ws, hr, hws, hall⟩ :=
    contains_iff_yielded Int64.maxValue Int64.minValue Int64.minValue hmin
  obtain rfl : build Int64.maxValue Int64.minValue Int64.minValue (by decide) = r := by
    simpa [new, hmin] using hr
  refine ⟨hmin, _, ws, hr, hws, ⟨(hall (-1)).1.1 (by decide), (hall (-1)).2 (by decide)⟩, ?_⟩
  rw [← (hall Int64.minValue).1]
  decide

end Builtins.Range
