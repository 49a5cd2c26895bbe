/-
# Named callers of a pool

A parser pool as it is seen from outside, one call at a time.  A desk keeps track of who holds a
workspace of a gate's pool and who waits for one, by name.  Nothing happens between two of its
operations, so a caller that has to wait and may not wait for ever runs out of time at once, and a
returned workspace goes to the caller who has waited longest.
-/
import Turnstile.Gate

namespace Turnstile

/-- A gate whose pool is used by named callers. -/
structure Desk where
  gate : Gate := {}
  /-- Workspaces by the name of their holder. -/
  holders : Dictionary String Parser.Workspace := .empty
  /-- Names by ticket. -/
  waiters : Dictionary Ticket String := .empty

namespace Desk

/-- A desk for a pool of its own. -/
def new (capacity : Nat) (patience : Option Duration) : Desk :=
  { gate := { pool := .new capacity, patience } }

/-- What a caller is told who asks for a workspace. -/
inductive Reply where
  | acquired
  | queued
  | timedOut (waited : Duration)
deriving DecidableEq, Repr

/-- The sentence for a caller that has waited too long. -/
def timeoutMessage (waited : Duration) : String :=
  s!"timed out after {waited.text} waiting for a rule parser"

/-- A caller asks for a workspace. -/
def acquire (d : Desk) (name : String) : Reply × Desk :=
  match d.gate.pool.arrive with
  | (.granted w, pool) =>
    (.acquired, { d with
      gate := { d.gate with pool }, holders := d.holders.insert name w })
  | (.queued ticket, pool) => match d.gate.patience with
    | some patience =>
      let (_, pool) := pool.expire ticket
      (.timedOut patience, { d with gate := { d.gate with pool } })
    | none =>
      (.queued, { d with
        gate := { d.gate with pool }, waiters := d.waiters.insert ticket name })

/-- Hands workspaces to the callers whose turn has come.  Gives their names. -/
def settle (d : Desk) : List String × Desk :=
  let (served, pool) := d.gate.pool.settle
  let named := served.filterMap fun s => (d.waiters.get? s.1).map (·, s.2)
  (named.map Prod.fst, { d with
    gate := { d.gate with pool }
    holders := d.holders.insertAll named
    waiters := d.waiters.filter fun ticket _ => pool.waiting.contains ticket })

/-- A caller gives its workspace back.  Gives the names of those who get one in turn. -/
def release (d : Desk) (name : String) : List String × Desk :=
  match d.holders.get? name with
  | none => ([], d)
  | some w => settle { d with
      gate := { d.gate with pool := d.gate.pool.release w }
      holders := d.holders.filter fun other _ => other != name }

/-- A holder parses a rule in its workspace. -/
def parse (d : Desk) (name : String) (id : RuleId) (text : String) :
    Option (Except ParseError Rule) × Desk :=
  match d.holders.get? name with
  | none => (none, d)
  | some w =>
    let (result, w) := w.parse id text
    (some result, { d with holders := d.holders.insert name w })

/-- Someone parses a rule through the gate. -/
def newRule (d : Desk) (id : RuleId) (text : String) : Except Error Rule × Desk :=
  let (result, gate) := d.gate.newRule id text
  (result, { d with gate })

end Desk

end Turnstile
