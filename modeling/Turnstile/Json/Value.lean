/-
# JSON values

What a JSON text holds.  Numbers are values of which nothing is kept, since no reader here asks for
one.  A text may hold half of a surrogate pair, written as an escape; it is then well formed but
stands for no string, and is kept as `none`.
-/

namespace Turnstile.Json

/-- A value.  The members of an object are kept in order, with all that have the same name. -/
inductive Value where
  | null
  | boolean (b : Bool)
  | number
  | string (s : Option String)
  | array (items : List Value)
  | object (members : List (Option String × Value))

end Turnstile.Json
