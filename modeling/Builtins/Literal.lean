import Builtins.Fault
import Builtins.Text.Blank

/-!
# Integer literals

Reading a word from text: blanks around it are dropped, one sign may come first, and every other
character is a decimal digit. Digits are read from the left, and the first one that is no digit or
that takes the value out of range decides the fault.
-/
namespace Builtins.Literal

/-- The value of a decimal digit. -/
def value? (c : Char) : Option Nat :=
  if '0' ≤ c ∧ c ≤ '9' then some (c.toNat - '0'.toNat) else none

inductive Sign where
  | plus
  | minus
  deriving DecidableEq, Repr

/-- The value after one more digit. -/
def Sign.extend (sign : Sign) (acc : Int) (d : Nat) : Int :=
  match sign with
  | .plus => 10 * acc + d
  | .minus => 10 * acc - d

def Sign.fault : Sign → LiteralFault
  | .plus => .tooLarge
  | .minus => .tooSmall

/-- Reads digits onto `acc`. -/
def readDigits (sign : Sign) (acc : Int) : List Char → Except LiteralFault Int
  | [] => .ok acc
  | c :: cs =>
    match value? c with
    | none => .error .invalidDigit
    | some d =>
      let next := sign.extend acc d
      if Word.Fits next then readDigits sign next cs else .error sign.fault

/-- Reads a literal without blanks around it. -/
def read : List Char → Except LiteralFault Int
  | [] => .error .empty
  | ['+'] => .error .invalidDigit
  | ['-'] => .error .invalidDigit
  | '+' :: cs => readDigits .plus 0 cs
  | '-' :: cs => readDigits .minus 0 cs
  | cs => readDigits .plus 0 cs

/-- The word that a text denotes. The fault carries the text as given. -/
def toWord (text : String) : Except Fault Word :=
  match read (Text.trimmed text.toList) with
  | .ok z => .ok (Int64.ofInt z)
  | .error reason => .error (.badLiteral text reason)

/-! ## Counts -/

/-- Reads digits onto `acc`, staying below `bound`. -/
def readBelow (bound acc : Nat) : List Char → Option Nat
  | [] => some acc
  | c :: cs => do
    let next := 10 * acc + (← value? c)
    if next < bound then readBelow bound next cs else none

/-- The unsigned 64-bit number that a text denotes: at most one plus sign, then digits. -/
def count? : List Char → Option Nat
  | [] => none
  | ['+'] => none
  | '+' :: cs => readBelow UInt64.size 0 cs
  | cs => readBelow UInt64.size 0 cs

end Builtins.Literal
