/-
# Gates

The rule evaluator of a service with all that it decides by: the access lists, the active rules, the
hit table, the pool of parsers, and metrics if they are wanted.

* `newRule` is the rule factory: it parses one rule with a pooled parser, and gives the parser back;
* `compile` reads a whole rule list or none of it, and `reload` makes it the active one;
* `decide` counts a request as a hit and answers with the first rule that matches, or with the
  default action;
* `sweep` and `sweepOnTime` remove idle clients.
-/
import Turnstile.HitTable
import Turnstile.Metrics
import Turnstile.Pool
import Turnstile.RuleSet

namespace Turnstile

/-- The state of a gate. -/
structure Gate where
  defaultAction : String := "accept"
  lists : AccessLists := {}
  active : RuleSet := {}
  table : HitTable := {}
  pool : Pool := .new Pool.defaultCapacity
  /-- How long to wait for a parser; without bound if it is not said. -/
  patience : Option Duration := none
  metrics : Option Metrics := none

namespace Gate

/-- Changes the metrics, if there are any. -/
def measure (g : Gate) (f : Metrics → Metrics) : Gate :=
  { g with metrics := g.metrics.map f }

/-! ## 1. Rules -/

/-- Asks for a workspace when nobody else can give one back meanwhile. -/
def acquire (g : Gate) : Except Error Parser.Workspace × Gate :=
  match g.pool.arrive with
  | (.granted w, pool) => (.ok w, { g with pool })
  | (.queued ticket, pool) => match g.patience with
    | some patience =>
      let (_, pool) := pool.expire ticket
      (.error (.poolTimeout patience), { g with pool })
    | none => (.error .poolStuck, { g with pool })

/-- Counts a rule that was read or refused. -/
def countRule (m : Metrics) : Except ParseError Rule → Metrics
  | .ok _ => m.recordCompiled 1
  | .error _ => m.recordRefused 1

/-- Parses one rule. -/
def newRule (g : Gate) (id : RuleId) (text : String) : Except Error Rule × Gate :=
  match g.acquire with
  | (.error e, g) => (.error e, g)
  | (.ok w, g) =>
    let (result, w) := w.parse id text
    let g := { g with pool := g.pool.release w }
    (result.mapError .parse, g.measure (countRule · result))

/-- Compiles configured rules behind those that have been compiled already. -/
def compileFrom (g : Gate) (done : List Rule) :
    List RuleSource → Except Error (List Rule) × Gate
  | [] => (.ok done, g)
  | c :: cs =>
    if done.any (·.id == c.id) then (.error (.config (.duplicateId c.id)), g)
    else match g.newRule c.id c.text with
      | (.error e, g) => (.error e, g)
      | (.ok rule, g) => match rule.missingList? g.lists with
        | some name => (.error (.config (.unknownList c.id name)), g)
        | none => compileFrom g (done ++ [rule]) cs

/-- Compiles a rule list. -/
def compile (g : Gate) (configs : List RuleSource) : Except Error RuleSet × Gate :=
  let (result, g) := g.compileFrom [] configs
  (result.map RuleSet.mk, g)

/-- Makes a rule set the active one. -/
def store (g : Gate) (rules : RuleSet) : Gate :=
  { g with active := rules }

/-- Compiles a rule list and makes it the active one.  If it fails, the active one stays. -/
def reload (g : Gate) (configs : List RuleSource) : Except Error Unit × Gate :=
  match g.compile configs with
  | (.ok rules, g) => (.ok (), g.store rules)
  | (.error e, g) => (.error e, g)

/-! ## 2. Decisions -/

/-- What a request gets: an action, and the rule that named it unless it is the default. -/
structure Decision where
  action : String
  rule : Option RuleId
deriving DecidableEq, Repr

/-- Decides a request by a list of rules.  The hit is counted first, so that rules see it.  A gauge
of clients goes up with the first hit of a client that is decided. -/
def decide (g : Gate) (rules : List Rule) (r : Request) : Except EvaluationError Decision × Gate :=
  let (hits, table) := g.table.recordHit r.address
  let g := { g with table }
  match (firstMatch (.ofRequest r hits g.lists) rules).outcome with
  | .error e => (.error e, g.measure Metrics.recordEvaluationError)
  | .ok found =>
    let decision : Decision := match found with
      | some rule => ⟨rule.action, some rule.id⟩
      | none => ⟨g.defaultAction, none⟩
    let g := match found with
      | some rule => { g with table := g.table.recordMatch r.address rule.id }
      | none => g
    let g := g.measure (·.recordDecision decision.action decision.rule)
    (.ok decision, if hits = 1 then g.measure Metrics.addClient else g)

/-- The action alone. -/
def action (g : Gate) (rules : List Rule) (r : Request) : Except EvaluationError String × Gate :=
  let (result, g) := g.decide rules r
  (result.map Decision.action, g)

/-! ## 3. Sweeps -/

/-- Removes clients that have been idle for some time.  Gives how many went. -/
def sweep (g : Gate) (idle : Duration) : Nat × Gate :=
  let (removed, table) := g.table.sweep idle
  (removed, { g with table })

/-- A sweep in the background, which sets the gauge of clients to what is left. -/
def sweepOnTime (g : Gate) (idle : Duration) : Gate :=
  let (_, g) := g.sweep idle
  g.measure (·.setClients g.table.size)

end Gate

end Turnstile
