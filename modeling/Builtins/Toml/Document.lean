import Builtins.Toml.Scalar

/-!
# TOML documents

A document is a sequence of lines: headers, which say which table is meant, and entries of that
table. Reading gives the entries of the root table, or nothing if the text is no document.
-/
namespace Builtins.Toml

/-! ## Nested values -/

/-- The values of an array after its opening bracket or a comma, with the scanner for a value. -/
def arrayRest (value : Scanner Value) (cs : List Char) : Option (List Value × List Char) :=
  match skipSpace cs with
  | ']' :: rest => some ([], rest)
  | start =>
    match value start with
    | none => none
    | some (v, rest) =>
      match skipSpace rest with
      | ']' :: rest => some ([v], rest)
      | ',' :: rest =>
        if rest.length < cs.length then
          (arrayRest value rest).map fun (vs, rest) => (v :: vs, rest)
        else none
      | _ => none
termination_by cs.length

/-- The entries of a table in braces, each after a brace or a comma, added to `es`. -/
def inlineRest (value : Scanner Value) (es : Entries) (cs : List Char) : Option (Entries × List Char) :=
  match key cs with
  | none => none
  | some ((path, name), rest) =>
    match expect '=' rest with
    | none => none
    | some rest =>
      match value (skipBlanks rest) with
      | none => none
      | some (v, rest) =>
        match es.assign path name v .inline with
        | none => none
        | some es =>
          match skipBlanks rest with
          | '\x7d' :: rest => some (es, rest)
          | ',' :: rest => if rest.length < cs.length then inlineRest value es rest else none
          | _ => none
termination_by cs.length

/-- A table in braces after the opening one. -/
def inlineTable (value : Scanner Value) (cs : List Char) : Option (Entries × List Char) :=
  match skipBlanks cs with
  | '\x7d' :: rest => some ([], rest)
  | _ => inlineRest value [] cs

/-- A value that may contain values nested up to `depth` levels. -/
def value (depth : Nat) (cs : List Char) : Option (Value × List Char) :=
  match cs with
  | [] => none
  | c :: rest =>
    if c = '\x22' ∨ c = '\x27' then (string cs).map fun (s, rest) => (.string s, rest)
    else if c = '[' then
      match depth with
      | 0 => none
      | depth + 1 => (arrayRest (value depth) rest).map fun (vs, rest) => (.array vs, rest)
    else if c = '\x7b' then
      match depth with
      | 0 => none
      | depth + 1 => (inlineTable (value depth) rest).map fun (es, rest) => (.table .inline es, rest)
    else if c = '+' ∨ c = '-' ∨ c.isDigit then number cs
    else if c = 'i' ∨ c = 'n' then specialFloat cs
    else boolean cs

/-! ## Lines -/

/-- A document under way: the root table, and the header of the table that entries go to. -/
structure Draft where
  root : Entries := []
  header : List String := []

/-- The line of an entry. -/
def entryLine (d : Draft) (cs : List Char) : Option (Draft × List Char) := do
  let ((path, name), rest) ← key cs
  let rest ← expect '=' rest
  let (v, rest) ← value (depthLimit - 1) (skipBlanks rest)
  let rest ← trailing rest
  let root ← d.root.update .implied (Entries.assign path name v) d.header .header
  return ({ d with root }, rest)

/-- The line of a header. -/
def headerLine (d : Draft) (cs : List Char) : Option (Draft × List Char) :=
  match cs with
  | '[' :: '[' :: rest => do
    let ((path, name), rest) ← key rest
    let rest ← expect ']' rest
    let rest ← expect ']' rest
    let rest ← trailing rest
    let root ← d.root.openElement path name
    return (⟨root, path ++ [name]⟩, rest)
  | '[' :: rest => do
    let ((path, name), rest) ← key rest
    let rest ← expect ']' rest
    let rest ← trailing rest
    let root ← d.root.openTable path name
    return (⟨root, path ++ [name]⟩, rest)
  | _ => none

/-- One line, which is not empty. -/
def line (d : Draft) (cs : List Char) : Option (Draft × List Char) :=
  match cs with
  | '#' :: _ => (lineEnd (skipComment cs)).map fun rest => (d, rest)
  | '[' :: _ => headerLine d cs
  | c :: _ =>
    if c = '\n' ∨ c = '\r' then (newline cs).map fun rest => (d, rest)
    else entryLine d cs
  | [] => none

/-- Reads line after line. -/
def lines (d : Draft) (cs : List Char) : Option Entries :=
  match skipBlanks cs with
  | [] => some d.root
  | start =>
    match line d start with
    | none => none
    | some (d, rest) => if rest.length < cs.length then lines d rest else none
termination_by cs.length

/-- Reads a document. A byte order mark at its beginning is left out. -/
def document (text : String) : Option Entries :=
  match text.toList with
  | c :: cs => if c.toNat = 0xFEFF then lines {} cs else lines {} (c :: cs)
  | [] => some []

end Builtins.Toml
