import Builtins.Log.Journal
import Builtins.Log.Settings

/-!
# Log lines

What an entry of a journal looks like in each format. A line has no time stamp until it is written.
-/
namespace Builtins.Log

/-- An entry as it is shown: a record, the spans around it, the innermost first, and those of them that
an object lists. -/
structure Shown where
  record : Record
  spans : List Span
  listed : List Span
  deriving DecidableEq, Repr

/-- How long a span was busy and idle is not measured. -/
def durations : List Field := [⟨"time.busy", .shown "_"⟩, ⟨"time.idle", .shown "_"⟩]

/-- Events are shown always, the two ends of a span only if asked for. The ends count as inside the
span, but an object does not list it then. -/
def Entry.shown (spanEvents : Bool) : Entry → Option Shown
  | event e within => some ⟨e.record, within, within⟩
  | opened s within =>
    if spanEvents then some ⟨⟨s.level, s.target, "new", []⟩, s :: within, within⟩ else none
  | closed s within =>
    if spanEvents then some ⟨⟨s.level, s.target, "close", durations⟩, s :: within, within⟩ else none

/-! ## Parts of a line -/

def Value.plain : Value → String
  | int z => toString z
  | bool b => if b then "true" else "false"
  | text s => Text.quoted s
  | shown s => s

/-- The name of a level, filled up to five places from the left. -/
def Level.padded (l : Level) : String :=
  String.ofList (List.replicate (5 - l.name.length) ' ') ++ l.name

/-- A character of a message: those that could steer a terminal are written by their code. -/
def messageChar (c : Char) : List Char :=
  let code := Nat.toDigits 16 c.toNat
  if c.toNat = 0x1B ∨ c.toNat = 0x7F then '\\' :: 'x' :: code
  else if c.toNat = 0x07 ∨ c.toNat = 0x08 ∨ c.toNat = 0x0C then '\\' :: 'x' :: '0' :: code
  else if 0x80 ≤ c.toNat ∧ c.toNat ≤ 0x9F then ['\\', 'u', '\x7b'] ++ code ++ ['\x7d']
  else [c]

def plainMessage (s : String) : String := String.ofList (s.toList.flatMap messageChar)

/-! ## Formats -/

/-- One line: level, spans, target, message, fields, fields of the spans. -/
def Shown.compact (s : Shown) : String :=
  let spans := s.spans.reverse
  let names := String.join (spans.map fun p => p.name ++ ":")
  let context := if spans.isEmpty then "" else names ++ " "
  let fields := (s.record.fields ++ spans.flatMap (·.fields)).map fun f => s!" {f.name}={f.value.plain}"
  s!"{s.record.level.padded} {context}{s.record.target}: {plainMessage s.record.message}" ++ String.join fields

/-- A line for the record and one for each span around it. -/
def Shown.pretty (s : Shown) : String :=
  let field (f : Field) : String := s!"{f.name}: {f.value.plain}"
  let head := s!"{s.record.level.padded} {s.record.target}: " ++
    ", ".intercalate (plainMessage s.record.message :: s.record.fields.map field)
  let context (p : Span) : String :=
    s!"    in {p.target}::{p.name}" ++
      (if p.fields.isEmpty then "" else " with " ++ ", ".intercalate (p.fields.map field))
  "\n".intercalate (head :: s.spans.map context)

/-- A character inside a JSON string. -/
def jsonChar (c : Char) : List Char :=
  if c = '\x22' then ['\\', '\x22']
  else if c = '\\' then ['\\', '\\']
  else if c = '\n' then ['\\', 'n']
  else if c = '\r' then ['\\', 'r']
  else if c = '\t' then ['\\', 't']
  else if c = '\x08' then ['\\', 'b']
  else if c = '\x0c' then ['\\', 'f']
  else if c.toNat < 0x20 then
    let code := Nat.toDigits 16 c.toNat
    ['\\', 'u'] ++ List.replicate (4 - code.length) '0' ++ code
  else [c]

def jsonText (s : String) : String := String.ofList ('\x22' :: s.toList.flatMap jsonChar ++ ['\x22'])

def Value.json : Value → String
  | int z => toString z
  | bool b => if b then "true" else "false"
  | text s => jsonText s
  | shown s => jsonText s

/-- A JSON object of given members. -/
def jsonObject (members : List (String × String)) : String :=
  "\x7b" ++ ",".intercalate (members.map fun m => jsonText m.1 ++ ":" ++ m.2) ++ "\x7d"

/-- A span as an object: its fields and its name. -/
def Span.json (p : Span) : String :=
  jsonObject (p.fields.map (fun f => (f.name, f.value.json)) ++ [("name", jsonText p.name)])

/-- One object on a line. -/
def Shown.json (s : Shown) : String :=
  let fields := ("message", jsonText s.record.message) :: s.record.fields.map fun f => (f.name, f.value.json)
  let spans := match s.spans with
    | [] => []
    | innermost :: _ =>
      [("span", innermost.json), ("spans", "[" ++ ",".intercalate (s.listed.reverse.map Span.json) ++ "]")]
  jsonObject ([("level", jsonText s.record.level.name), ("fields", jsonObject fields),
    ("target", jsonText s.record.target)] ++ spans)

def Format.render : Format → Shown → String
  | pretty => Shown.pretty
  | compact => Shown.compact
  | json => Shown.json

/-- Puts a time stamp in front of a line; in an object it is the first member. Several lines that
belong together are parted from the next ones by an empty line. -/
def Format.stamp (time line : String) : Format → String
  | pretty => s!"  {time} {line}\n"
  | compact => s!"{time} {line}"
  | json => "\x7b" ++ jsonText "timestamp" ++ ":" ++ jsonText time ++ "," ++ String.ofList (line.toList.drop 1)

end Builtins.Log
