/-!
# Lines of a text

A line ends with a line feed, or with a carriage return and a line feed. What follows the last line
feed is a line only if it is not empty, and keeps a carriage return at its end.
-/
namespace Builtins.Text

/-- The line collected in reverse, without the carriage return before its line feed. -/
def ended : List Char → List Char
  | '\r' :: cs => cs.reverse
  | cs => cs.reverse

/-- The lines of `cs`, the first of which begins with the reverse of `acc`. -/
def linesFrom (acc : List Char) : List Char → List (List Char)
  | [] => if acc.isEmpty then [] else [acc.reverse]
  | '\n' :: cs => ended acc :: linesFrom [] cs
  | c :: cs => linesFrom (c :: acc) cs

def lines (s : String) : List String := (linesFrom [] s.toList).map String.ofList

/-- The pieces of a text between the separators. There is always at least one. -/
def pieces {α : Type} [DecidableEq α] (separator : α) : List α → List (List α)
  | [] => [[]]
  | c :: cs =>
    match pieces separator cs with
    | [] => [[c]]
    | p :: ps => if c = separator then [] :: p :: ps else (c :: p) :: ps

end Builtins.Text
