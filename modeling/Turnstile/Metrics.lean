/-
# Metrics

Counters of what a gate has done, and a gauge for the size of its hit table.  Counters have 64 bits
and wrap around; the gauge is a signed number of 64 bits.
-/
import Turnstile.Dictionary
import Turnstile.Rule.Predicate

namespace Turnstile

/-- What is counted. -/
structure Metrics where
  /-- Requests that were decided or failed. -/
  evaluations : UInt64 := 0
  /-- Decisions by action. -/
  decisions : Dictionary String UInt64 := .empty
  /-- Decisions by the rule that matched. -/
  ruleMatches : Dictionary RuleId UInt64 := .empty
  /-- Requests that failed. -/
  evaluationErrors : UInt64 := 0
  /-- Rules that were read. -/
  compiled : UInt64 := 0
  /-- Rule texts that were refused. -/
  refused : UInt64 := 0
  /-- Clients in the hit table. -/
  clients : Int := 0
deriving DecidableEq

namespace Metrics

/-- Adds one to a counter under a label. -/
def bump {κ : Type} [DecidableEq κ] (d : Dictionary κ UInt64) (k : κ) : Dictionary κ UInt64 :=
  d.insert k ((d.get? k).getD 0 + 1)

/-- A decision: its action, and the rule that made it unless it was the default. -/
def recordDecision (m : Metrics) (action : String) (rule : Option RuleId) : Metrics :=
  { m with
    evaluations := m.evaluations + 1
    decisions := bump m.decisions action
    ruleMatches := match rule with
      | some id => bump m.ruleMatches id
      | none => m.ruleMatches }

/-- A request that failed. -/
def recordEvaluationError (m : Metrics) : Metrics :=
  { m with evaluations := m.evaluations + 1, evaluationErrors := m.evaluationErrors + 1 }

/-- Rules that were read. -/
def recordCompiled (m : Metrics) (n : UInt64) : Metrics :=
  { m with compiled := m.compiled + n }

/-- Rule texts that were refused. -/
def recordRefused (m : Metrics) (n : UInt64) : Metrics :=
  { m with refused := m.refused + n }

/-- The largest value of the gauge. -/
def maxClients : Nat := 9223372036854775807

/-- Sets the gauge, to its largest value if need be. -/
def setClients (m : Metrics) (n : Nat) : Metrics :=
  { m with clients := min n maxClients }

/-- Adds one to the gauge. -/
def addClient (m : Metrics) : Metrics :=
  { m with clients := (m.clients + 1).bmod UInt64.size }

end Metrics

end Turnstile
