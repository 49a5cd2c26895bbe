/-
# Requests

What is known of one request: the client's address, and the host name, path and headers where there
are any.  Header names are compared exactly; the last value set under a name stays.
-/
import Turnstile.Address
import Turnstile.Dictionary

namespace Turnstile

/-- The facts of a request. -/
structure Request where
  address : Address
  host : Option String := none
  path : Option String := none
  headers : Dictionary String String := .empty
deriving DecidableEq

namespace Request

/-- A request of which only the address is known. -/
def ofAddress (address : Address) : Request :=
  { address }

/-- Sets the host name. -/
def withHost (r : Request) (host : String) : Request :=
  { r with host := some host }

/-- Sets the path. -/
def withPath (r : Request) (path : String) : Request :=
  { r with path := some path }

/-- Sets one header, in place of an earlier value. -/
def withHeader (r : Request) (name value : String) : Request :=
  { r with headers := r.headers.insert name value }

/-- Sets headers one after the other. -/
def withHeaders (r : Request) (pairs : List (String × String)) : Request :=
  { r with headers := r.headers.insertAll pairs }

/-- The value of a header. -/
def header? (r : Request) (name : String) : Option String :=
  r.headers.get? name

end Request

end Turnstile
