/-!
# Decoding bytes

Bytes are text if they are valid UTF-8. Where any bytes must be shown, `lossy` reads them with one
replacement character for each longest beginning of a character that is not completed.
-/
namespace Builtins.Text

/-- What a leading byte announces: how many bytes follow, its own payload, and the bounds of the
byte that comes next. -/
structure Lead where
  following : Nat
  payload : Nat
  low : Nat
  high : Nat
  deriving DecidableEq, Repr

/-- The bounds of the second byte keep out overlong forms, surrogates and what lies beyond the last
code point. -/
def lead? (b : Nat) : Option Lead :=
  if b < 0x80 then some ⟨0, b, 0, 0⟩
  else if b < 0xC2 then none
  else if b < 0xE0 then some ⟨1, b - 0xC0, 0x80, 0xBF⟩
  else if b = 0xE0 then some ⟨2, 0, 0xA0, 0xBF⟩
  else if b = 0xED then some ⟨2, 0xD, 0x80, 0x9F⟩
  else if b < 0xF0 then some ⟨2, b - 0xE0, 0x80, 0xBF⟩
  else if b = 0xF0 then some ⟨3, 0, 0x90, 0xBF⟩
  else if b < 0xF4 then some ⟨3, b - 0xF0, 0x80, 0xBF⟩
  else if b = 0xF4 then some ⟨3, 4, 0x80, 0x8F⟩
  else none

/-- Reads `n` more bytes onto the code point `acc`, the first of them between `low` and `high`. On a
byte that does not fit, what was read is given up and the byte stays. -/
def continuation (n low high acc : Nat) : List UInt8 → Option Nat × List UInt8
  | [] => (if n = 0 then some acc else none, [])
  | b :: bs =>
    match n with
    | 0 => (some acc, b :: bs)
    | n + 1 =>
      if low ≤ b.toNat ∧ b.toNat ≤ high then continuation n 0x80 0xBF (64 * acc + b.toNat % 64) bs
      else (none, b :: bs)

theorem length_continuation (n low high acc : Nat) (bs : List UInt8) :
    (continuation n low high acc bs).2.length ≤ bs.length := by
  induction bs generalizing n low high acc with
  | nil => simp [continuation]
  | cons b bs ih =>
    cases n with
    | zero => simp [continuation]
    | succ n =>
      simp only [continuation]
      split
      · exact Nat.le_trans (ih ..) (Nat.le_succ _)
      · simp

/-- The first character after a leading byte, and the bytes behind it. -/
def firstChar (b : UInt8) (bs : List UInt8) : Option Char × List UInt8 :=
  match lead? b.toNat with
  | none => (none, bs)
  | some l =>
    let (code, rest) := continuation l.following l.low l.high l.payload bs
    (code.map Char.ofNat, rest)

theorem length_firstChar (b : UInt8) (bs : List UInt8) : (firstChar b bs).2.length ≤ bs.length := by
  unfold firstChar
  split
  · simp
  · exact length_continuation ..

/-- The character that stands for bytes that are no character. -/
def replacement : Char := Char.ofNat 0xFFFD

/-- The characters of any bytes. -/
def lossyChars : List UInt8 → List Char
  | [] => []
  | b :: bs => (firstChar b bs).1.getD replacement :: lossyChars (firstChar b bs).2
termination_by bs => bs.length
decreasing_by
  have := length_firstChar b bs
  simp only [List.length_cons]
  omega

/-- The text of any bytes; valid UTF-8 is read as it is. -/
def lossy (bytes : ByteArray) : String :=
  match String.fromUTF8? bytes with
  | some s => s
  | none => String.ofList (lossyChars bytes.toList)

end Builtins.Text
