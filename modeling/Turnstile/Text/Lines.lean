/-
# Lines

A line ends at a line feed, and a carriage return directly before it belongs to the ending.
Behind the last line feed there is one more line only if there are characters.
-/

namespace Turnstile.Text

/-- Without a carriage return at the end of the line that `read` holds in reverse. -/
def dropReturn : (read : List Char) → List Char
  | '\r' :: read => read
  | read => read

/-- The lines of a text; `read` holds the beginning of the current one in reverse. -/
def splitLines (read : List Char) : List Char → List (List Char)
  | [] => if read.isEmpty then [] else [read.reverse]
  | c :: cs =>
    if c = '\n' then (dropReturn read).reverse :: splitLines [] cs else splitLines (c :: read) cs

/-- The lines of a text. -/
def lines (s : String) : List String :=
  (splitLines [] s.toList).map String.ofList

end Turnstile.Text
