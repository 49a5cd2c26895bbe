/-
# Snapshots of requests

A request line is what a caller of `eval` writes about one request, in JSON: the address as text,
and the host name and the headers if there are any.  An object names these fields, each at most
once, beside others that are not used; an array gives them in this order.
-/
import Turnstile.Address.Reader
import Turnstile.Json.Reader
import Turnstile.Request

namespace Turnstile

open Turnstile.Json (Value)

/-- A request as it is written. -/
structure Snapshot where
  address : String
  host : Option String := none
  headers : List (String × String) := []
deriving DecidableEq, Repr

namespace Snapshot

/-! ## 1. Values -/

/-- A text that stands for a string. -/
def string? : Value → Option String
  | .string s => s
  | _ => none

/-- A host name; `null` says that there is none. -/
def host? : Value → Option (Option String)
  | .null => some none
  | v => (string? v).map some

/-- Headers by name. -/
def headers? : Value → Option (List (String × String))
  | .object members => members.mapM fun (name, v) => return (← name, ← string? v)
  | _ => none

/-! ## 2. Fields -/

/-- Values by the names of their fields. -/
def fields? : Value → Option (List (String × Value))
  | .object members => members.mapM fun (name, v) => return (← name, v)
  | .array items =>
    if items.length ≤ 3 then some (["address", "host", "headers"].zip items) else none
  | _ => none

/-- A field, read if it is there.  A field that is there twice is refused. -/
def field? {α : Type} (fields : List (String × Value)) (name : String)
    (read? : Value → Option α) : Option (Option α) :=
  match fields.filter (·.1 == name) with
  | [] => some none
  | [f] => (read? f.2).map some
  | _ => none

/-- The snapshot that a value describes. -/
def ofValue? (v : Value) : Option Snapshot := do
  let fields ← fields? v
  let address ← (← field? fields "address" string?)
  let host ← field? fields "host" host?
  let headers ← field? fields "headers" headers?
  return { address, host := host.getD none, headers := headers.getD [] }

/-- The snapshot on a line. -/
def ofLine? (line : String) : Option Snapshot := do
  ofValue? (← Json.read? line)

/-! ## 3. Requests -/

/-- The request of a snapshot, if its address is one. -/
def request? (s : Snapshot) : Option Request := do
  let r := (Request.ofAddress (← Address.ofString? s.address)).withHeaders s.headers
  return match s.host with
    | some host => r.withHost host
    | none => r

end Snapshot

end Turnstile
