/-
# The ledger behind a hit table

A hit table counts in words of 64 bits and keeps its tallies in a list of entries.  A ledger is what
the table stands for: a clock, and for each canonical address two plain numbers, the last rule that
matched and the time of the last hit.  `HitTable.ledger` reads a table as a ledger.

**Reading commutes with recording as long as no counter is full.**  Each record of the table is the
record of the ledger (`ledger_recordHit`, `ledger_recordMatch`, `ledger_sweep`); the two counting
ones need room in a counter, and the number that a hit gets is then the next one (`recordHit_fst`).

**A counter never runs ahead of the records.**  `HitTable.Reached hits matched t` says that so many
hits and so many matches led to `t`, with any sweeps between them and any time passing; then no
tally holds more (`Reached.bounded`), also if a counter has wrapped.  So below `2 ^ 64 - 1` records
there is room in every counter.
-/
import Turnstile.HitTable

namespace Turnstile

/-! ## 1. Ledgers -/

/-- What a ledger keeps of one client. -/
structure Client where
  hits : Nat := 0
  matched : Nat := 0
  lastRule : Option RuleId := none
  lastHit : Nat := 0

namespace Client

/-- One more hit. -/
def hit (clock : Nat) (c : Client) : Client :=
  { c with hits := c.hits + 1, lastHit := max c.lastHit clock }

/-- One more match, by a rule. -/
def ruled (rule : RuleId) (c : Client) : Client :=
  { c with matched := c.matched + 1, lastRule := some rule }

end Client

/-- Clients by canonical address, and a clock in milliseconds. -/
structure Ledger where
  clock : Nat
  clients : Address → Option Client

namespace Ledger

/-- What is kept of a client, all zero if it has no entry. -/
def client (L : Ledger) (a : Address) : Client :=
  (L.clients a.canonical).getD {}

/-- A change keeps a bound if the changed tally keeps it and the bound does not fall.  Hits and
matches are the two cases of it. -/
def change (L : Ledger) (a : Address) (f : Client → Client) : Ledger :=
  { L with clients := fun k => if k = a.canonical then some (f (L.client a)) else L.clients k }

/-- Counts a hit. -/
def recordHit (L : Ledger) (a : Address) : Ledger :=
  L.change a (.hit L.clock)

/-- Counts a match and notes the rule. -/
def recordMatch (L : Ledger) (a : Address) (rule : RuleId) : Ledger :=
  L.change a (.ruled rule)

/-- Removes the clients whose last hit is at least so long ago. -/
def sweep (L : Ledger) (idle : Duration) : Ledger :=
  { L with clients := fun k => (L.clients k).filter fun c => L.clock - c.lastHit < idle.millis }

/-- Lets time pass. -/
def elapse (L : Ledger) (millis : Nat) : Ledger :=
  { L with clock := L.clock + millis }

end Ledger

/-! ## 2. A table as a ledger -/

/-- A tally with its counters as plain numbers. -/
def Tally.client (t : Tally) : Client :=
  ⟨t.hits.toNat, t.matched.toNat, t.lastRule, t.lastHit⟩

namespace Tally

theorem toNat_add_one {n : UInt64} (h : n.toNat + 1 < UInt64.size) :
    (n + 1).toNat = n.toNat + 1 := by
  rw [UInt64.toNat_add]
  exact Nat.mod_eq_of_lt h

theorem client_hit {t : Tally} (h : t.hits.toNat + 1 < UInt64.size) (clock : Nat) :
    (t.hit clock).client = t.client.hit clock := by
  rw [client, lastRule_hit]
  simp only [client, hit, Client.hit, toNat_add_one h]

theorem client_ruled {t : Tally} (h : t.matched.toNat + 1 < UInt64.size) (rule : RuleId) :
    (t.ruled rule).client = t.client.ruled rule := by
  rw [client, lastRule_ruled]
  simp only [client, ruled, Client.ruled, toNat_add_one h]

/-- With room in the counter the number of a hit is the next one, and the largest number is not
reached. -/
theorem ordinal_eq {t : Tally} (h : t.hits.toNat + 1 < UInt64.size) :
    t.ordinal = t.hits + 1 := by
  refine if_neg fun hmax => ?_
  have hn : t.hits.toNat = UInt64.size - 1 := by rw [hmax]; rfl
  omega

end Tally

namespace HitTable

/-- What a table stands for. -/
def ledger (t : HitTable) : Ledger :=
  ⟨t.clock, fun k => (t.tallies.get? k).map Tally.client⟩

theorem ledger_client (t : HitTable) (a : Address) : t.ledger.client a = (t.tally a).client := by
  simp only [Ledger.client, ledger, tally, tally?]
  cases t.tallies.get? a.canonical with
  | none => rfl
  | some tally => rfl

/-- **A change that reads as a change of the client reads as a change of the ledger.**  The order of
entries and the words that hold the counters are gone from there on. -/
theorem ledger_change (t : HitTable) (a : Address) {f : Tally → Tally} {f' : Client → Client}
    (h : (f (t.tally a)).client = f' (t.tally a).client) :
    (t.change a f).ledger = t.ledger.change a f' := by
  have hk : ∀ k, ((t.change a f).tallies.get? k).map Tally.client =
      if k = a.canonical then some (f' (t.ledger.client a))
      else (t.tallies.get? k).map Tally.client := by
    intro k
    rw [ledger_client, ← h]
    by_cases e : k = a.canonical
    · simp [change, Dictionary.get?_insert, e]
    · simp [change, Dictionary.get?_insert, e]
  simp only [ledger, Ledger.change]
  exact congrArg (Ledger.mk t.clock) (funext hk)

theorem recordHit_fst {t : HitTable} {a : Address}
    (h : (t.tally a).hits.toNat + 1 < UInt64.size) :
    (t.recordHit a).1 = .ofNat (t.ledger.client a).hits.succ := by
  rw [recordHit_eq, ledger_client, Tally.ordinal_eq h, ← UInt64.toNat_inj, Tally.toNat_add_one h]
  exact (UInt64.toNat_ofNat_of_lt' h).symm

theorem ledger_recordHit {t : HitTable} {a : Address}
    (h : (t.tally a).hits.toNat + 1 < UInt64.size) :
    (t.recordHit a).2.ledger = t.ledger.recordHit a := by
  rw [recordHit_eq]
  exact ledger_change t a (Tally.client_hit h t.clock)

theorem ledger_recordMatch {t : HitTable} {a : Address}
    (h : (t.tally a).matched.toNat + 1 < UInt64.size) (rule : RuleId) :
    (t.recordMatch a rule).ledger = t.ledger.recordMatch a rule := by
  rw [recordMatch_eq]
  exact ledger_change t a (Tally.client_ruled h rule)

theorem ledger_sweep (t : HitTable) (idle : Duration) :
    (t.sweep idle).2.ledger = t.ledger.sweep idle := by
  have hk : ∀ k, ((t.tallies.filter fun _ tally =>
        t.clock - tally.lastHit < idle.millis).get? k).map Tally.client =
      ((t.tallies.get? k).map Tally.client).filter fun c => t.clock - c.lastHit < idle.millis := by
    intro k
    rw [Dictionary.get?_filter, Option.filter_map]
    rfl
  exact congrArg (Ledger.mk t.clock) (funext hk)

theorem ledger_elapse (t : HitTable) (millis : Nat) :
    (t.elapse millis).ledger = t.ledger.elapse millis := rfl

/-! ## 3. Counters and records -/

/-- Tables that so many hits and so many matches lead to. -/
inductive Reached : (hits matched : Nat) → HitTable → Prop
  | empty : Reached 0 0 .empty
  | hit {h m : Nat} {t : HitTable} (a : Address) :
      Reached h m t → Reached (h + 1) m (t.recordHit a).2
  | matched {h m : Nat} {t : HitTable} (a : Address) (rule : RuleId) :
      Reached h m t → Reached h (m + 1) (t.recordMatch a rule)
  | sweep {h m : Nat} {t : HitTable} (idle : Duration) :
      Reached h m t → Reached h m (t.sweep idle).2
  | elapse {h m : Nat} {t : HitTable} (millis : Nat) :
      Reached h m t → Reached h m (t.elapse millis)

/-- No client has more hits or more matches than so many. -/
def Bounded (hits matched : Nat) (t : HitTable) : Prop :=
  ∀ k tally, t.tallies.get? k = some tally →
    tally.hits.toNat ≤ hits ∧ tally.matched.toNat ≤ matched

namespace Bounded

variable {h m : Nat} {t : HitTable}

theorem tally (hb : Bounded h m t) (a : Address) :
    (t.tally a).hits.toNat ≤ h ∧ (t.tally a).matched.toNat ≤ m := by
  unfold HitTable.tally tally?
  cases hk : t.tallies.get? a.canonical with
  | none => exact ⟨Nat.zero_le _, Nat.zero_le _⟩
  | some tally => exact hb _ tally hk

/-- Bounds that are not reached leave room in every counter, so that one more hit and one more match
can be told. -/
theorem room (hb : Bounded h m t) (hh : h + 1 < UInt64.size) (hm : m + 1 < UInt64.size)
    (a : Address) : (t.tally a).hits.toNat + 1 < UInt64.size ∧
      (t.tally a).matched.toNat + 1 < UInt64.size := by
  have := hb.tally a
  omega

/-- A change keeps a bound if the changed tally keeps it and the bound does not fall. -/
theorem change (hb : Bounded h m t) {h' m' : Nat} (hh : h ≤ h') (hm : m ≤ m') (a : Address)
    {f : Tally → Tally} (hf : (f (t.tally a)).hits.toNat ≤ h' ∧
      (f (t.tally a)).matched.toNat ≤ m') : Bounded h' m' (t.change a f) := by
  intro k tally hk
  rw [HitTable.change, Dictionary.get?_insert] at hk
  by_cases e : k = a.canonical
  · rw [if_pos e] at hk
    cases hk
    exact hf
  · rw [if_neg e] at hk
    have := hb k tally hk
    omega

/-- A counter that wraps falls to zero, so that one more is at most one more.  The bound needs no
room for that. -/
theorem toNat_add_one_le (n : UInt64) : (n + 1).toNat ≤ n.toNat + 1 := by
  rw [UInt64.toNat_add]
  exact Nat.mod_le _ _

theorem hit (hb : Bounded h m t) (a : Address) : Bounded (h + 1) m (t.recordHit a).2 := by
  obtain ⟨hh, hm⟩ := hb.tally a
  rw [recordHit_eq]
  exact hb.change (by omega) (Nat.le_refl _) a ⟨Nat.le_trans (toNat_add_one_le _) (by omega), hm⟩

theorem matched (hb : Bounded h m t) (a : Address) (rule : RuleId) :
    Bounded h (m + 1) (t.recordMatch a rule) := by
  obtain ⟨hh, hm⟩ := hb.tally a
  rw [recordMatch_eq]
  exact hb.change (Nat.le_refl _) (by omega) a ⟨hh, Nat.le_trans (toNat_add_one_le _) (by omega)⟩

theorem sweep (hb : Bounded h m t) (idle : Duration) : Bounded h m (t.sweep idle).2 := by
  intro k tally hk
  rw [HitTable.sweep, Dictionary.get?_filter, Option.filter_eq_some_iff] at hk
  exact hb k tally hk.1

theorem mono (hb : Bounded h m t) {h' m' : Nat} (hh : h ≤ h') (hm : m ≤ m') : Bounded h' m' t :=
  fun k tally hk => ⟨Nat.le_trans (hb k tally hk).1 hh, Nat.le_trans (hb k tally hk).2 hm⟩

end Bounded

theorem Reached.bounded {h m : Nat} {t : HitTable} (hr : Reached h m t) : Bounded h m t := by
  induction hr with
  | empty =>
    intro k tally hk
    simp [HitTable.empty] at hk
  | hit a _ ih => exact ih.hit a
  | matched a rule _ ih => exact ih.matched a rule
  | sweep idle _ ih => exact ih.sweep idle
  | elapse _ _ ih => exact ih

end HitTable

end Turnstile
