import Builtins.Toml.Lexeme
import Builtins.Toml.Value
import Builtins.Word

/-!
# TOML numbers, truth values and dates

Integers are words; floating-point numbers are rounded to the nearest number of 64 bits. Of dates and
times it matters only that they exist, so they are checked and then forgotten.
-/
namespace Builtins.Toml

/-! ## Digits -/

/-- More digits of a number: single underscores may stand between digits. -/
def moreDigits (isDigit : Char → Bool) : List Char → List Char × List Char
  | c :: cs =>
    if isDigit c then
      let (ds, rest) := moreDigits isDigit cs
      (c :: ds, rest)
    else
      match c, cs with
      | '_', d :: cs =>
        if isDigit d then
          let (ds, rest) := moreDigits isDigit cs
          (d :: ds, rest)
        else ([], c :: d :: cs)
      | c, cs => ([], c :: cs)
  | [] => ([], [])

/-- A non-empty run of digits, without its underscores. -/
def digitRun (isDigit : Char → Bool) : Scanner (List Char)
  | c :: cs =>
    if isDigit c then
      let (ds, rest) := moreDigits isDigit cs
      some (c :: ds, rest)
    else none
  | [] => none

/-- The value of digits in a base. -/
def ofDigits (base : Nat) (ds : List Char) : Nat :=
  ds.foldl (fun n c => base * n + (hexValue? c).getD 0) 0

/-- A sign, if there is one; true for a minus. -/
def sign : List Char → Bool × List Char
  | '+' :: cs => (false, cs)
  | '-' :: cs => (true, cs)
  | cs => (false, cs)

/-- The digits of a decimal integer: a zero alone, or digits that do not start with one. -/
def wholeDigits : Scanner (List Char)
  | '0' :: cs => some (['0'], cs)
  | cs => digitRun Char.isDigit cs

/-! ## Numbers -/

/-- The integer, if it is a word. -/
def wordValue (z : Int) (rest : List Char) : Option (Value × List Char) :=
  if Word.Fits z then some (.integer z, rest) else none

def isOctal (c : Char) : Bool := '0' ≤ c && c ≤ '7'

def isBinary (c : Char) : Bool := c == '0' || c == '1'

def isHex (c : Char) : Bool := (hexValue? c).isSome

/-- An integer in a base given by its first characters. -/
def based (base : Nat) (isDigit : Char → Bool) (cs : List Char) : Option (Value × List Char) :=
  match digitRun isDigit cs with
  | some (ds, rest) => wordValue (ofDigits base ds) rest
  | none => none

def integer (cs : List Char) : Option (Value × List Char) :=
  match cs with
  | '0' :: 'x' :: cs => based 16 isHex cs
  | '0' :: 'o' :: cs => based 8 isOctal cs
  | '0' :: 'b' :: cs => based 2 isBinary cs
  | cs =>
    let (negative, cs) := sign cs
    match wholeDigits cs with
    | some (ds, rest) =>
      let n := ofDigits 10 ds
      wordValue (if negative then -(n : Int) else n) rest
    | none => none

/-- The power of ten after an `e`. -/
def exponent : Scanner Int
  | c :: cs =>
    if c = 'e' ∨ c = 'E' then
      let (negative, cs) := sign cs
      match digitRun Char.isDigit cs with
      | some (ds, rest) =>
        let n := ofDigits 10 ds
        some (if negative then -(n : Int) else n, rest)
      | none => none
    else none
  | [] => none

/-- Beyond this power of ten, on either side, the digits before it cannot change the result. -/
def farExponent (digits : Nat) : Nat := digits + 400

/-- The number `whole.fraction * 10 ^ power`. One that is too large for the format is none, unless it
is negative. -/
def floatValue (negative : Bool) (whole fraction : List Char) (power : Int) (rest : List Char) :
    Option (Value × List Char) :=
  let digits := whole ++ fraction
  let far : Int := farExponent digits.length
  let power := max (-far) (min far power)
  match Decimal.Binary.nearest .double negative (ofDigits 10 digits) (power - fraction.length) with
  | .infinite false => none
  | b => some (.float b, rest)

/-- A number with a fraction, a power of ten, or both. -/
def decimalFloat (cs : List Char) : Option (Value × List Char) :=
  let (negative, cs) := sign cs
  match wholeDigits cs with
  | none => none
  | some (whole, rest) =>
    match rest with
    | '.' :: rest =>
      match digitRun Char.isDigit rest with
      | none => none
      | some (fraction, rest) =>
        match exponent rest with
        | some (power, rest) => floatValue negative whole fraction power rest
        | none => floatValue negative whole fraction 0 rest
    | rest =>
      match exponent rest with
      | some (power, rest) => floatValue negative whole [] power rest
      | none => none

/-- An infinity or what is no number, with or without a sign. -/
def specialFloat (cs : List Char) : Option (Value × List Char) :=
  let (negative, cs) := sign cs
  match cs with
  | 'i' :: 'n' :: 'f' :: rest => some (.float (.infinite negative), rest)
  | 'n' :: 'a' :: 'n' :: rest => some (.float .nan, rest)
  | _ => none

def boolean : Scanner Value
  | 't' :: 'r' :: 'u' :: 'e' :: rest => some (.boolean true, rest)
  | 'f' :: 'a' :: 'l' :: 's' :: 'e' :: rest => some (.boolean false, rest)
  | _ => none

/-! ## Dates and times -/

/-- A number of exactly `n` digits between two bounds. -/
def fixedDigits (n low high : Nat) (cs : List Char) : Option (Nat × List Char) :=
  let ds := cs.take n
  if ds.length = n ∧ ds.all Char.isDigit then
    let v := ofDigits 10 ds
    if low ≤ v ∧ v ≤ high then some (v, cs.drop n) else none
  else none

def isLeapYear (year : Nat) : Bool := year % 4 == 0 && (year % 100 != 0 || year % 400 == 0)

def daysInMonth (year month : Nat) : Nat :=
  if month == 2 then if isLeapYear year then 29 else 28
  else if month == 4 || month == 6 || month == 9 || month == 11 then 30
  else 31

/-- Year, month and day. -/
def date (cs : List Char) : Option (List Char) := do
  let (year, cs) ← fixedDigits 4 0 9999 cs
  let cs ← expect '-' cs
  let (month, cs) ← fixedDigits 2 1 12 cs
  let cs ← expect '-' cs
  let (_, cs) ← fixedDigits 2 1 (daysInMonth year month) cs
  return cs

/-- Hour, minute, second and perhaps a fraction of it. -/
def time (cs : List Char) : Option (List Char) := do
  let (_, cs) ← fixedDigits 2 0 23 cs
  let cs ← expect ':' cs
  let (_, cs) ← fixedDigits 2 0 59 cs
  let cs ← expect ':' cs
  let (_, cs) ← fixedDigits 2 0 60 cs
  match cs with
  | '.' :: rest => if (rest.takeWhile Char.isDigit).isEmpty then return cs else return rest.dropWhile Char.isDigit
  | cs => return cs

/-- The distance from universal time, which may be left out. -/
def offset (cs : List Char) : Option (List Char) :=
  match cs with
  | c :: rest =>
    if c = 'Z' ∨ c = 'z' then some rest
    else if c = '+' ∨ c = '-' then do
      let (_, rest) ← fixedDigits 2 0 23 rest
      let rest ← expect ':' rest
      let (_, rest) ← fixedDigits 2 0 59 rest
      return rest
    else some cs
  | [] => some []

/-- A date, a time, or both. -/
def moment (cs : List Char) : Option (Value × List Char) :=
  match date cs with
  | none => (time cs).map fun rest => (.moment, rest)
  | some rest =>
    match rest with
    | c :: after =>
      if c = 'T' ∨ c = 't' ∨ c = ' ' then
        match time after with
        | some after => (offset after).map fun rest => (.moment, rest)
        | none => some (.moment, rest)
      else some (.moment, rest)
    | [] => some (.moment, [])

/-- A value that starts like a number. -/
def number (cs : List Char) : Option (Value × List Char) :=
  moment cs <|> decimalFloat cs <|> specialFloat cs <|> integer cs

end Builtins.Toml
