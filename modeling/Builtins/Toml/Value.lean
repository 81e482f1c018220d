import Builtins.Decimal.Binary

/-!
# TOML values

The values of a document and the tables they are kept in. A table has its entries in the order in
which they were added, and remembers how it came about, which decides whether it can be added to.
-/
namespace Builtins.Toml

/-- How a table came about: under a header of its own, on the way to another header, through a dotted
key, or written in braces. -/
inductive Origin where
  | header
  | implied
  | dotted
  | inline
  deriving DecidableEq, Repr

/-- A value. `moment` is a date or a time; `tables` are the tables under one doubled header. -/
inductive Value where
  | string (s : String)
  | integer (z : Int)
  | float (b : Decimal.Binary)
  | boolean (b : Bool)
  | moment
  | array (items : List Value)
  | table (origin : Origin) (entries : List (String × Value))
  | tables (items : List (List (String × Value)))

/-- The entries of a table, in order. -/
abbrev Entries := List (String × Value)

namespace Entries

def contains (es : Entries) (key : String) : Bool := es.any (·.1 = key)

/-- Changes the value under a key where it stands. -/
def replace (es : Entries) (key : String) (v : Value) : Entries :=
  es.map fun e => if e.1 = key then (key, v) else e

def erase (es : Entries) (key : String) : Entries := es.filter (·.1 ≠ key)

/-- Changes the table at the end of a path, which is made if it is not there, with all tables on the
way; `made` says how those come about. A dotted key does not lead into a table that was given as a
whole. Nothing leads into a value that is no table, and the last of several tables is taken. -/
def update (made : Origin) (change : Origin → Entries → Option Entries) :
    List String → Origin → Entries → Option Entries
  | [], origin, es => change origin es
  | key :: path, _, es =>
    match es.lookup key with
    | none => do
      let sub ← update made change path made []
      return es ++ [(key, .table made sub)]
    | some (.table origin sub) =>
      if origin = .inline ∨ (made = .dotted ∧ origin = .header) then none
      else do
        let sub ← update made change path origin sub
        return es.replace key (.table origin sub)
    | some (.tables items) =>
      match items.reverse with
      | [] => none
      | last :: before => do
        let last ← update made change path .header last
        return es.replace key (.tables (before.reverse ++ [last]))
    | some _ => none

/-- Adds a value under a key, behind a path of dotted keys. A dotted key adds only to tables that
dotted keys have made, and a plain key to no such table. -/
def assign (path : List String) (key : String) (v : Value) (origin : Origin) (es : Entries) :
    Option Entries :=
  update .dotted (fun origin es =>
    if decide (origin = .dotted) = path.isEmpty ∨ es.contains key then none
    else some (es ++ [(key, v)])) path origin es

/-- Opens the table of a header. One that other headers have implied is taken up, and moves behind the
others; any other thing under the key is a clash. -/
def openTable (path : List String) (key : String) (es : Entries) : Option Entries :=
  update .implied (fun _ es =>
    match es.lookup key with
    | none => some (es ++ [(key, .table .header [])])
    | some (.table .implied sub) => some (es.erase key ++ [(key, .table .header sub)])
    | some _ => none) path .header es

/-- Opens one more table of a doubled header. -/
def openElement (path : List String) (key : String) (es : Entries) : Option Entries :=
  update .implied (fun _ es =>
    match es.lookup key with
    | none => some (es ++ [(key, .tables [[]])])
    | some (.tables items) => some (es.replace key (.tables (items ++ [[]])))
    | some _ => none) path .header es

end Entries

end Builtins.Toml
