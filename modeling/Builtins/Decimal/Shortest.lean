import Builtins.Decimal.Binary

/-!
# Shortest decimal text

The text of a floating-point number is the shortest decimal that reads back as the same number,
and of the shortest ones the nearest; it is written out in full, without an exponent.
-/
namespace Builtins.Decimal

/-- The decimal `coefficient * 10 ^ scale`. -/
structure Scaled where
  coefficient : Nat
  scale : Int
  deriving DecidableEq, Repr

/-- The reals that round to one number: those between `low / den` and `high / den`, with the ends
if `closed`; the number itself is `mid / den`. -/
structure Interval where
  low : Nat
  mid : Nat
  high : Nat
  den : Nat
  closed : Bool
  deriving DecidableEq, Repr

namespace Interval

/-- The reals that round to `significand * 2 ^ exponent`, measured in quarters of its unit. Ends
belong to it when the significand is even, since a half goes to the even neighbour. -/
def ofFinite (significand : Nat) (exponent : Int) (tight : Bool) : Interval :=
  let unit := Nat.pow 2 (exponent - 2).toNat
  { low := (4 * significand - (if tight then 1 else 2)) * unit
    mid := 4 * significand * unit
    high := (4 * significand + 2) * unit
    den := Nat.pow 2 (2 - exponent).toNat
    closed := significand % 2 == 0 }

/-- Whether `num / den` lies in the interval, given over its own denominator. -/
def holds (s : Interval) (num : Nat) : Bool :=
  if s.closed then s.low ≤ num && num ≤ s.high else s.low < num && num < s.high

/-- The interval measured in units of `10 ^ scale`. -/
def scaledTo (s : Interval) (scale : Int) : Interval :=
  let up := Nat.pow 10 (-scale).toNat
  { s with low := s.low * up, mid := s.mid * up, high := s.high * up
           den := s.den * Nat.pow 10 scale.toNat }

/-- The multiple of `10 ^ scale` in the interval that is nearest to the number, if there is any. Of two
equally near ones the larger is taken. -/
def onGrid? (s : Interval) (scale : Int) : Option Scaled :=
  let t := s.scaledTo scale
  let down := t.mid / t.den
  let up := down + 1
  match t.holds (down * t.den), t.holds (up * t.den) with
  | true, true => if 2 * (t.mid - down * t.den) < t.den then some ⟨down, scale⟩ else some ⟨up, scale⟩
  | true, false => some ⟨down, scale⟩
  | false, true => some ⟨up, scale⟩
  | false, false => none

/-- The first grid that meets the interval, from coarse to fine. The coarsest grid is one step beyond
the number, and the number lies on the grid of step `10 ^ exponent` if its exponent is negative. -/
def shortest (s : Interval) (exponent : Int) : Scaled :=
  let top := (Nat.toDigits 10 (s.high / s.den)).length
  ((List.range (top + exponent.natAbs + 1)).findSome? fun (i : Nat) => s.onGrid? (top - i)).getD ⟨0, 0⟩

end Interval

/-- A decimal written out without an exponent. -/
def Scaled.text (d : Scaled) : String :=
  let ds := Nat.toDigits 10 d.coefficient
  if 0 ≤ d.scale then
    String.ofList (if d.coefficient == 0 then ds else ds ++ List.replicate d.scale.toNat '0')
  else
    let places := d.scale.natAbs
    let padded := List.replicate (places + 1 - ds.length) '0' ++ ds
    let whole := padded.length - places
    String.ofList (padded.take whole ++ '.' :: padded.drop whole)

namespace Binary

/-- The text of a number. Zero keeps its sign; what is no number has none. -/
def text : Binary → String
  | nan => "NaN"
  | infinite negative => if negative then "-inf" else "inf"
  | finite negative m e tight =>
    let magnitude := if m == 0 then "0" else ((Interval.ofFinite m e tight).shortest e).text
    if negative then "-" ++ magnitude else magnitude

/-- The text of a number that always shows it is no integer: finite numbers have a point. -/
def pointed (b : Binary) : String :=
  match b with
  | finite .. => if b.text.contains '.' then b.text else b.text ++ ".0"
  | _ => b.text

end Binary

end Builtins.Decimal
