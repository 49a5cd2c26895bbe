/-
# Parser pools

A bounded number of parser workspaces that callers borrow.  A workspace is made when none is idle
and the bound allows it; after that callers queue, each with a ticket, and are served in order of
arrival.  A caller that arrives while others wait queues behind them even if a workspace is idle.

Each operation is one step under the pool's lock.  A waiting caller looks at the pool when it is
woken: `isTurn` says whether it may go ahead, and then `takeTurn` serves it.  A caller that stops
waiting looks once more and else gives up its ticket (`expire`).  The functions `wakesOnRelease` and
`wakesOnTurn` say after which steps the waiting callers are woken.
-/
import Turnstile.Rule.Parser

namespace Turnstile

open Turnstile.Parser

/-- A place in the queue. -/
abbrev Ticket := UInt64

/-- The state of a pool.  `idle` holds the latest returned workspace first, `waiting` the oldest
ticket first. -/
structure Pool where
  capacity : Nat
  idle : List Workspace := []
  created : Nat := 0
  waiting : List Ticket := []
  nextTicket : Ticket := 0
  capacity_pos : 0 < capacity
deriving DecidableEq

/-- What an arriving caller gets. -/
inductive Arrival where
  | granted (w : Workspace)
  | queued (ticket : Ticket)
deriving DecidableEq

namespace Pool

/-- The capacity of a pool for which none is asked. -/
def defaultCapacity : Nat := 4

/-- A pool without workspaces.  A capacity of zero is taken for one. -/
def new (capacity : Nat) : Pool where
  capacity := max capacity 1
  capacity_pos := by omega

/-! ## 1. Arrival -/

/-- Queues a caller. -/
def enqueue (p : Pool) : Arrival × Pool :=
  (.queued p.nextTicket,
    { p with waiting := p.waiting ++ [p.nextTicket], nextTicket := p.nextTicket + 1 })

/-- A caller asks for a workspace. -/
def arrive (p : Pool) : Arrival × Pool :=
  if p.waiting.isEmpty then
    match p.idle with
    | w :: idle => (.granted w, { p with idle })
    | [] =>
      if p.created < p.capacity then (.granted {}, { p with created := p.created + 1 })
      else p.enqueue
  else p.enqueue

/-! ## 2. Waiting -/

/-- Whether a waiting caller may go ahead: it is the first, and a workspace is idle. -/
def isTurn (p : Pool) (ticket : Ticket) : Bool :=
  p.waiting.head? == some ticket && !p.idle.isEmpty

/-- Serves the first waiting caller with the latest returned workspace. -/
def takeTurn (p : Pool) : Option Workspace × Pool :=
  (p.idle.head?, { p with waiting := p.waiting.tail, idle := p.idle.tail })

/-- Whether the others have to look after the first has been served. -/
def wakesOnTurn (p : Pool) : Bool :=
  !p.idle.tail.isEmpty && !p.waiting.tail.isEmpty

/-- A caller has waited long enough: it is served if its turn has come, and gives up its
ticket otherwise. -/
def expire (p : Pool) (ticket : Ticket) : Option Workspace × Pool :=
  if p.isTurn ticket then p.takeTurn
  else (none, { p with waiting := p.waiting.filter (· != ticket) })

/-! ## 3. Return -/

/-- A caller gives its workspace back. -/
def release (p : Pool) (w : Workspace) : Pool :=
  { p with idle := w :: p.idle }

/-- Whether the waiting callers have to look after a return. -/
def wakesOnRelease (p : Pool) : Bool :=
  !p.waiting.isEmpty

/-- Serves one waiting caller after the other, for as long as workspaces are idle. -/
def serve : List Workspace → List Ticket →
    List (Ticket × Workspace) × List Workspace × List Ticket
  | w :: idle, t :: waiting =>
    let (served, rest) := serve idle waiting
    ((t, w) :: served, rest)
  | idle, waiting => ([], idle, waiting)

/-- Lets all callers look who are waiting.  Gives whom it served, in order. -/
def settle (p : Pool) : List (Ticket × Workspace) × Pool :=
  let (served, idle, waiting) := serve p.idle p.waiting
  (served, { p with idle, waiting })

end Pool

end Turnstile
