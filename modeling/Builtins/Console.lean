import Builtins.Fault
import Builtins.Text.Utf8

/-!
# Consoles

A console is a `Sink` that takes what a program writes and a `Source` of what it reads.

The source delivers its bytes in fills, as a buffered reader would. A fill can be empty, which tells
the reader once that the input has ended, or can fail; fills after it are delivered to later reads.
Reading goes by tokens: maximal runs of bytes that are no separators.
-/
namespace Builtins

/-! ## Reading -/

/-- What a source delivers at once: bytes, where no bytes mean the end of the input, or a failure. -/
inductive Fill where
  | data (bytes : List UInt8)
  | failure (text : String)
  deriving DecidableEq, Repr

/-- The fills that a source has still to deliver. When there are none, the input has ended. -/
structure Source where
  fills : List Fill
  deriving DecidableEq, Repr

/-- The bytes that part tokens: space, tab, line feed, form feed and carriage return. -/
def isSeparator (b : UInt8) : Bool :=
  b == 0x20 || b == 0x09 || b == 0x0A || b == 0x0C || b == 0x0D

def Fill.bytes : Fill → List UInt8
  | .data bytes => bytes
  | .failure _ => []

namespace Source

/-- The bytes that have not been read. -/
def bytes (s : Source) : List UInt8 := s.fills.flatMap Fill.bytes

def unread (s : Source) : Nat := s.bytes.length

/-- Continues a token by the bytes of a fill: the token so far and the bytes that are left. Separators
in front of a token are skipped; the one that ends it is left. -/
def absorb (token bytes : List UInt8) : List UInt8 × List UInt8 :=
  let bytes := if token.isEmpty then bytes.dropWhile isSeparator else bytes
  (token ++ bytes.takeWhile (!isSeparator ·), bytes.dropWhile (!isSeparator ·))

/-- Reads on with `token` already collected: the bytes of the token or the failure that broke it
off, and the fills that are left. -/
def collect (token : List UInt8) : List Fill → Except Fault (List UInt8) × List Fill
  | [] => (.ok token, [])
  | .failure text :: rest => (.error (.io text), rest)
  | .data bytes :: rest =>
    if bytes.isEmpty then (.ok token, rest)
    else
      match absorb token bytes with
      | (token, []) => collect token rest
      | (token, left) => (.ok token, .data left :: rest)

/-- The text of a token, if it is valid. -/
def decode (token : List UInt8) : Except Fault String :=
  match String.fromUTF8? token.toByteArray with
  | some text => .ok text
  | none => .error .invalidUtf8

/-- Reads the next token; at the end of the input it is empty. A token that is no text is used up
all the same. -/
def token (s : Source) : Except Fault String × Source :=
  let (result, fills) := collect [] s.fills
  (result.bind decode, ⟨fills⟩)

end Source

/-! ## Writing -/

/-- What has been written. A write that would take the contents over the limit fails and stores
nothing; flushing fails unless `flushes`. -/
structure Sink where
  contents : ByteArray := ByteArray.empty
  limit : Option Nat := none
  flushes : Bool := true

namespace Sink

/-- Whether `n` more bytes are within the limit. -/
def admits (s : Sink) (n : Nat) : Bool := s.limit.all (s.contents.size + n ≤ ·)

def write (s : Sink) (bytes : ByteArray) : Except Fault Unit × Sink :=
  if s.admits bytes.size then (.ok (), { s with contents := s.contents ++ bytes })
  else (.error (.io "sink full"), s)

def flush (s : Sink) : Except Fault Unit :=
  if s.flushes then .ok () else .error (.io "flush failed")

/-- The contents as text. -/
def text (s : Sink) : String := Text.lossy s.contents

def clear (s : Sink) : Sink := { s with contents := ByteArray.empty }

end Sink

structure Console where
  sink : Sink
  source : Source

namespace Console

def write (c : Console) (bytes : ByteArray) : Except Fault Unit × Console :=
  let (result, sink) := c.sink.write bytes
  (result, { c with sink })

/-- Writes a text and a line feed at once. -/
def print (c : Console) (text : String) : Except Fault Unit × Console :=
  c.write (text ++ "\n").toUTF8

def flush (c : Console) : Except Fault Unit := c.sink.flush

/-- Reads a token. -/
def token (c : Console) : Except Fault String × Console :=
  let (result, source) := c.source.token
  (result, { c with source })

/-- Prints a prompt, flushes it and reads a token. Nothing is read if the prompt does not get out. -/
def ask (c : Console) (prompt : String) : Except Fault String × Console :=
  match c.print prompt with
  | (.error fault, c) => (.error fault, c)
  | (.ok (), c) =>
    match c.flush with
    | .error fault => (.error fault, c)
    | .ok () => c.token

end Console

end Builtins
