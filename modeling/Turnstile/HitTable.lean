/-
# Hit tables

How often each client came, how often a rule matched for it, which rule did so last, and when it
came last.  Clients are told apart by canonical address, so that an IPv4 address and its mapped form
are one client.

A client's tally is made by the first record of it.  Recording has two halves, which callers that
race may interleave: a tally that is there is changed at once (`changePresent`), and otherwise it is
made, unless someone else has made it since, and changed (`change`).

* `recordHit` and `recordMatch` record;
* `sweep` removes the clients that have not come for some time.
-/
import Turnstile.Dictionary
import Turnstile.Duration
import Turnstile.Rule.Predicate

namespace Turnstile

/-! ## 1. Tallies -/

/-- The word for no rule.  Identifiers have 32 bits, so it is the word of none of them. -/
def Tally.noRule : UInt64 := .ofNat (UInt64.size - 1)

/-- What is counted of one client.  Counters have 64 bits and wrap around. -/
structure Tally where
  hits : UInt64 := 0
  matched : UInt64 := 0
  /-- The identifier of the last rule that matched, or the word for no rule. -/
  ruleWord : UInt64 := Tally.noRule
  /-- The clock at the last hit. -/
  lastHit : Nat := 0
deriving DecidableEq, Repr

namespace Tally

/-- The last rule that matched, if there was one. -/
def lastRule (t : Tally) : Option RuleId :=
  if t.ruleWord = noRule then none
  else if t.ruleWord.toNat < UInt32.size then some t.ruleWord.toUInt32
  else none

/-- One more hit. -/
def hit (clock : Nat) (t : Tally) : Tally :=
  { t with hits := t.hits + 1, lastHit := max t.lastHit clock }

/-- The number of a hit, counted from one.  It stays at the largest number instead of wrapping
around. -/
def ordinal (t : Tally) : UInt64 :=
  if t.hits = .ofNat (UInt64.size - 1) then t.hits else t.hits + 1

/-- One more match, by a rule. -/
def ruled (rule : RuleId) (t : Tally) : Tally :=
  { t with matched := t.matched + 1, ruleWord := rule.toUInt64 }

theorem lastRule_hit (clock : Nat) (t : Tally) : (t.hit clock).lastRule = t.lastRule := rfl

/-- **Every identifier is told from no rule**, the largest one too. -/
theorem lastRule_ruled (rule : RuleId) (t : Tally) : (t.ruled rule).lastRule = some rule := by
  have hlt : rule.toUInt64.toNat < UInt32.size := rule.toNat_lt
  have hne : rule.toUInt64 ≠ noRule := by
    intro h
    rw [h] at hlt
    exact absurd hlt (by decide)
  rw [lastRule, ruled, if_neg hne, if_pos hlt]
  exact congrArg some (UInt32.toUInt32_toUInt64 rule)

end Tally

/-! ## 2. Tables -/

/-- Tallies by canonical address, and a clock in milliseconds. -/
structure HitTable where
  clock : Nat := 0
  tallies : Dictionary Address Tally := .empty
deriving DecidableEq

namespace HitTable

/-- No client at clock zero. -/
def empty : HitTable := {}

/-- Lets time pass. -/
def elapse (t : HitTable) (millis : Nat) : HitTable :=
  { t with clock := t.clock + millis }

/-- The tally of a client. -/
def tally? (t : HitTable) (a : Address) : Option Tally :=
  t.tallies.get? a.canonical

/-- The tally of a client, all zero if there is none. -/
def tally (t : HitTable) (a : Address) : Tally :=
  (t.tally? a).getD {}

/-- Changes the tally of a client that has one. -/
def changePresent (t : HitTable) (a : Address) (f : Tally → Tally) : Option HitTable :=
  (t.tally? a).map fun old => { t with tallies := t.tallies.insert a.canonical (f old) }

/-- Changes the tally of a client, and makes it first if there is none. -/
def change (t : HitTable) (a : Address) (f : Tally → Tally) : HitTable :=
  { t with tallies := t.tallies.insert a.canonical (f (t.tally a)) }

/-- Counts a hit.  Gives the client's hits with this one. -/
def recordHit (t : HitTable) (a : Address) : UInt64 × HitTable :=
  ((t.tally a).ordinal, (t.changePresent a (.hit t.clock)).getD (t.change a (.hit t.clock)))

/-- Counts a match and notes the rule. -/
def recordMatch (t : HitTable) (a : Address) (rule : RuleId) : HitTable :=
  (t.changePresent a (.ruled rule)).getD (t.change a (.ruled rule))

/-- How many clients have a tally. -/
def size (t : HitTable) : Nat :=
  t.tallies.size

/-- The clock at a client's last hit, if it has been hit. -/
def lastHit? (t : HitTable) (a : Address) : Option Nat :=
  (t.tally? a).bind fun tally => if tally.hits = 0 then none else some tally.lastHit

/-- Removes the clients whose last hit is at least so long ago, and counts them. -/
def sweep (t : HitTable) (idle : Duration) : Nat × HitTable :=
  let stays (_ : Address) (tally : Tally) : Bool := t.clock - tally.lastHit < idle.millis
  (t.tallies.failing stays, { t with tallies := t.tallies.filter stays })

/-! ## 3. Through the view -/

/-- Addresses with one canonical address have one tally. -/
theorem tally?_congr {t : HitTable} {a b : Address} (h : a.canonical = b.canonical) :
    t.tally? a = t.tally? b := by
  rw [tally?, tally?, h]

theorem tally_congr {t : HitTable} {a b : Address} (h : a.canonical = b.canonical) :
    t.tally a = t.tally b := by
  rw [tally, tally, tally?_congr h]

theorem get?_change (t : HitTable) (a k : Address) (f : Tally → Tally) :
    (t.change a f).tallies.get? k =
      if k = a.canonical then some (f (t.tally a)) else t.tallies.get? k :=
  Dictionary.get?_insert _ _ _ _

theorem tally?_change (t : HitTable) (a b : Address) (f : Tally → Tally) :
    (t.change a f).tally? b =
      if b.canonical = a.canonical then some (f (t.tally a)) else t.tally? b :=
  get?_change t a b.canonical f

theorem changePresent_eq (t : HitTable) (a : Address) (f : Tally → Tally) :
    (t.changePresent a f).getD (t.change a f) = t.change a f := by
  unfold changePresent change tally
  cases t.tally? a <;> rfl

theorem recordHit_eq (t : HitTable) (a : Address) :
    t.recordHit a = ((t.tally a).ordinal, t.change a (.hit t.clock)) := by
  simp [recordHit, changePresent_eq]

theorem recordMatch_eq (t : HitTable) (a : Address) (rule : RuleId) :
    t.recordMatch a rule = t.change a (.ruled rule) := by
  simp [recordMatch, changePresent_eq]

end HitTable

end Turnstile
