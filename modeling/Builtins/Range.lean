import Builtins.Fault

/-!
# Ranges

A range is a half-open arithmetic progression: it starts at `start`, advances by `step` and ends
before `stop`. Whether it is empty is decided once, when it is built. A `Cursor` walks it; cursors
are values, so a copy walks on by itself. The step is never zero, so every pull that succeeds gets
closer to the stop and a walk ends (`togo_next`).
-/
namespace Builtins

structure Range where
  start : Word
  stop : Word
  step : Word
  exhausted : Bool
  step_ne_zero : step ≠ 0
  deriving DecidableEq, Repr

/-- The number of steps from `position` that stay before `stop` in the direction of `step`: the
distance divided by the stride, rounded up. It is computed over the integers and cut to 64 bits. -/
def stepsLeft (position stop step : Word) : UInt64 :=
  let distance := if 0 < step then stop.toInt - position.toInt else position.toInt - stop.toInt
  let stride := if 0 < step then step.toInt else -step.toInt
  if distance ≤ 0 then 0 else UInt64.ofInt ((distance + stride - 1) / stride)

namespace Range

/-- The range with a step that is not zero. It is empty if it starts at its stop or points away
from it. -/
def build (start stop step : Word) (h : step ≠ 0) : Range where
  start := start
  stop := stop
  step := step
  exhausted := start == stop || decide (start > stop) == decide (step > 0)
  step_ne_zero := h

def new (start stop step : Word) : Except Fault Range :=
  if h : step = 0 then .error (.zeroStep start stop) else .ok (build start stop step h)

def between (start stop : Word) : Range := build start stop 1 (by decide)

def upTo (stop : Word) : Range := between 0 stop

/-- The number of values. -/
def length (r : Range) : UInt64 := if r.exhausted then 0 else stepsLeft r.start r.stop r.step

def isEmpty (r : Range) : Bool := r.length == 0

/-- Whether `value` is one of the values: it lies within the bounds and a whole number of steps
away from the start. -/
def contains (r : Range) (value : Word) : Bool :=
  !r.isEmpty &&
    (if 0 < r.step then r.start ≤ value && value < r.stop else r.stop < value && value ≤ r.start) &&
    (value.toInt - r.start.toInt).tmod r.step.toInt == 0

/-- The call that makes the range; a step of one is left out. -/
def text (r : Range) : String :=
  if r.step = 1 then s!"range({r.start}, {r.stop})" else s!"range({r.start}, {r.stop}, {r.step})"

/-- All fields of the range. -/
def describe (r : Range) : String :=
  s!"RangeSequence \x7b start: {r.start}, stop: {r.stop}, step: {r.step}, exhausted: {r.exhausted} \x7d"

/-! ## Walking a range -/

/-- A position in a range. `done` is set once a pull has failed or the next position is no word. -/
structure Cursor where
  position : Word
  stop : Word
  step : Word
  done : Bool
  step_ne_zero : step ≠ 0
  deriving DecidableEq, Repr

/-- A fresh walk. -/
def cursor (r : Range) : Cursor := ⟨r.start, r.stop, r.step, r.exhausted, r.step_ne_zero⟩

namespace Cursor

def beforeStop (c : Cursor) : Bool :=
  if 0 < c.step then c.position < c.stop else c.stop < c.position

/-- Pulls one value. A position past the range of words is past the stop too, and ends the walk. -/
def next (c : Cursor) : Option Word × Cursor :=
  if c.done || !c.beforeStop then (none, { c with done := true })
  else
    match c.position.add? c.step with
    | some p => (some c.position, { c with position := p })
    | none => (some c.position, { c with done := true })

/-- The way to the stop, in the direction of the step; there is none if the walk has ended. -/
def togo (c : Cursor) : Nat :=
  if c.done then 0
  else if 0 < c.step then (c.stop.toInt - c.position.toInt).toNat
  else (c.position.toInt - c.stop.toInt).toNat

theorem togo_pos {c : Cursor} (hdone : c.done = false) (hbefore : c.beforeStop = true) :
    0 < c.togo := by
  unfold beforeStop at hbefore
  unfold togo
  rw [hdone, if_neg Bool.false_ne_true]
  split
  · next hpos =>
    rw [if_pos hpos, decide_eq_true_eq, Int64.lt_iff_toInt_lt] at hbefore
    omega
  · next hpos =>
    rw [if_neg hpos, decide_eq_true_eq, Int64.lt_iff_toInt_lt] at hbefore
    omega

/-- A pull that succeeds moves the position towards the stop, or ends the walk. -/
theorem togo_next {c d : Cursor} {w : Word} (h : c.next = (some w, d)) : d.togo < c.togo := by
  unfold next at h
  split at h
  · cases h
  · next hwalks =>
    obtain ⟨hdone, hbefore⟩ : c.done = false ∧ c.beforeStop = true := by simpa using hwalks
    have hway := togo_pos hdone hbefore
    split at h
    · next p hp =>
      cases h
      have hmoved : p.toInt = c.position.toInt + c.step.toInt := Word.ofInt?_eq_some_iff.1 hp
      have hstep : c.step.toInt ≠ 0 := fun hz => c.step_ne_zero (Int64.toInt_inj.1 hz)
      simp only [togo, hdone, Bool.false_eq_true, if_false, Int64.lt_iff_toInt_lt, Int64.toInt_zero,
        hmoved] at hway ⊢
      split at hway
      · next hpos =>
        simp only [if_pos hpos]
        omega
      · next hpos =>
        simp only [if_neg hpos]
        omega
    · cases h
      exact hway

/-- Skips `n` values and pulls one; stops at the first pull that fails. -/
def nth : Nat → Cursor → Option Word × Cursor
  | 0, c => c.next
  | n + 1, c =>
    match c.next with
    | (some _, c) => nth n c
    | (none, c) => (none, c)

/-- Pulls up to `n` values. -/
def take : Nat → Cursor → List Word × Cursor
  | 0, c => ([], c)
  | n + 1, c =>
    match c.next with
    | (some w, c) => let (ws, c) := take n c; (w :: ws, c)
    | (none, c) => ([], c)

/-- How many values are left. -/
def remaining (c : Cursor) : UInt64 := if c.done then 0 else stepsLeft c.position c.stop c.step

/-- A lower and, if there is one, an upper bound on how many values are left. -/
def sizeHint (c : Cursor) : UInt64 × Option UInt64 := (c.remaining, some c.remaining)

/-- All fields of the cursor. -/
def describe (c : Cursor) : String :=
  s!"RangeIter \x7b cursor: {c.position}, stop: {c.stop}, step: {c.step}, done: {c.done} \x7d"

end Cursor

end Range

end Builtins
