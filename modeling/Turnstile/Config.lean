/-
# Configurations

What an operator may set: the default action, the rules, the access lists, and how the hit table,
the pool of parsers and the log behave.  Every setting has a default except those of a rule.

* `check` refuses settings that could not be meant: an empty default action, a pool without
  parsers, two rules of one identifier, and rules without text;
* `Gate.ofConfig` makes a gate as configured and compiles its rules.
-/
import Turnstile.Gate
import Turnstile.Text.Blank

namespace Turnstile

open Turnstile.Text

/-! ## 1. Settings -/

/-- When clients leave the hit table. -/
structure SweepSettings where
  /-- A client without a hit for this many seconds is removed by a sweep. -/
  idleSeconds : UInt64 := 3600
  /-- Seconds between sweeps; zero for no sweeps. -/
  sweepSeconds : UInt64 := 60
deriving DecidableEq, Repr

namespace SweepSettings

/-- How long a client may be idle. -/
def idle (c : SweepSettings) : Duration :=
  .ofSeconds c.idleSeconds.toNat

/-- The time between sweeps, if there are any. -/
def sweepInterval? (c : SweepSettings) : Option Duration :=
  if c.sweepSeconds = 0 then none else some (.ofSeconds c.sweepSeconds.toNat)

end SweepSettings

/-- The pool of parsers. -/
structure PoolSettings where
  capacity : UInt64 := .ofNat Pool.defaultCapacity
  /-- How many milliseconds to wait for a parser; without bound if it is not said. -/
  patienceMillis : Option UInt64 := none
deriving DecidableEq, Repr

namespace PoolSettings

/-- How long to wait for a parser. -/
def patience (c : PoolSettings) : Option Duration :=
  c.patienceMillis.map fun n => .ofMillis n.toNat

end PoolSettings

/-- The log. -/
structure LogSettings where
  level : String := "info"
  /-- Whether messages say where they come from. -/
  showTarget : Bool := false
deriving DecidableEq, Repr

/-- All settings. -/
structure Config where
  defaultAction : String := "accept"
  rules : List RuleSource := []
  lists : AccessLists := {}
  hitTable : SweepSettings := {}
  pool : PoolSettings := {}
  log : LogSettings := {}
deriving DecidableEq

namespace Config

/-! ## 2. Checks -/

/-- Checks rules one by one: an identifier must be new, and the text must not be empty. -/
def checkRules (seen : List RuleId) : List RuleSource → Except ConfigFault Unit
  | [] => .ok ()
  | rule :: rules =>
    if seen.contains rule.id then .error (.duplicateId rule.id)
    else if allBlank rule.text then .error (.emptyRule rule.id)
    else checkRules (rule.id :: seen) rules

/-- Checks all settings.  Of several faults the first in the order of the settings counts. -/
def check (c : Config) : Except ConfigFault Unit :=
  if allBlank c.defaultAction then .error .emptyDefault
  else if c.pool.capacity = 0 then .error .noParsers
  else checkRules [] c.rules

end Config

/-! ## 3. Gates -/

namespace Gate

/-- A gate as configured, before its rules are compiled. -/
def ofSettings (c : Config) (metrics : Option Metrics) : Gate where
  defaultAction := c.defaultAction
  lists := c.lists
  pool := .new c.pool.capacity.toNat
  patience := c.pool.patience
  metrics := metrics

/-- A gate as configured, with its rules compiled. -/
def ofConfig (c : Config) (metrics : Option Metrics) : Except Error Gate :=
  match (ofSettings c metrics).reload c.rules with
  | (.ok (), g) => .ok g
  | (.error e, _) => .error e

end Gate

end Turnstile
