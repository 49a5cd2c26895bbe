/-
# The history behind a hit table

Hits and matches are recorded in any order, for clients by any of their addresses, and now and
then a sweep removes entries.  A sweep for less than a millisecond removes all of them; other
sweeps are looked at here that remove none.  `History.since` is what is left of a history: the
records behind the last sweep that removed all.

**The table sums up what is left of its history.**  At each canonical address the tally counts
the hits and the matches there, and its last rule is the latest that was noted
(`Tally.Sums`); there is an entry for each client that was named, and for nobody else
(`HitTable.Sums`).  One record more on both sides keeps this (`HitTable.Sums.record`), so it
holds behind every history (`HitTable.Sums.replay`).

**If matches come from decisions alone**, each match stands behind a hit of its own.  Then no
client has more matches than hits, whatever the sweeps remove, and whoever is in the table has
been hit (`Gate.Served.accounted`).
-/
import Mathlib.Data.List.Dedup
import Mathlib.Data.List.DropRight
import Turnstile.Proofs.Decision.FirstMatch

namespace Turnstile

/-! ## 1. Histories -/

/-- What is done to a table. -/
inductive Record where
  | hit (a : Address)
  | matched (a : Address) (rule : RuleId)
  | sweep (idle : Duration)
  | elapse (millis : Nat)

namespace Record

/-- A sweep for less than a millisecond. -/
def clears : Record → Bool
  | sweep idle => idle.millis == 0
  | _ => false

/-- The client that is named, by its canonical address. -/
def client? : Record → Option Address
  | hit a | matched a _ => some a.canonical
  | _ => none

/-- Whether a client is hit. -/
def hits (key : Address) : Record → Bool
  | hit a => a.canonical == key
  | _ => false

/-- The rule that is noted for a client. -/
def rule? (key : Address) : Record → Option RuleId
  | matched a rule => if a.canonical = key then some rule else none
  | _ => none

/-- Who is not named is not concerned: the record is neither a hit nor a match of that client. -/
theorem unconcerned {r : Record} {key : Address} (h : r.client? ≠ some key) :
    r.hits key = false ∧ r.rule? key = none := by
  cases r with
  | hit a => exact ⟨beq_eq_false_iff_ne.2 fun ha => h (congrArg some ha), rfl⟩
  | matched a rule => exact ⟨rfl, if_neg fun ha => h (congrArg some ha)⟩
  | sweep idle => exact ⟨rfl, rfl⟩
  | elapse millis => exact ⟨rfl, rfl⟩

end Record

namespace History

/-- The records behind the last sweep that removed all. -/
def since (history : List Record) : List Record :=
  history.rtakeWhile fun r => !r.clears

/-- How often a client was hit. -/
def hits (key : Address) (records : List Record) : Nat :=
  records.countP (Record.hits key)

/-- The rules that were noted for a client, the latest last. -/
def rules (key : Address) (records : List Record) : List RuleId :=
  records.filterMap (Record.rule? key)

/-- The clients that were named, each once. -/
def clients (records : List Record) : List Address :=
  (records.filterMap Record.client?).dedup

/-- No client was hit, or matched, more often than its counters can tell.  Other records need no
counter, so there may be any number of sweeps, and time may pass in any number of steps. -/
def Countable (history : List Record) : Prop :=
  ∀ key, hits key history < UInt64.size ∧ (rules key history).length < UInt64.size

theorem since_concat (history : List Record) (r : Record) :
    since (history ++ [r]) = if r.clears then [] else since history ++ [r] := by
  rw [since, List.rtakeWhile_concat]
  cases r.clears <;> rfl

theorem hits_since_le (key : Address) (history : List Record) :
    hits key (since history) ≤ hits key history :=
  (List.rtakeWhile_suffix _ history).sublist.countP_le

theorem length_rules_since_le (key : Address) (history : List Record) :
    (rules key (since history)).length ≤ (rules key history).length :=
  ((List.rtakeWhile_suffix _ history).sublist.filterMap _).length_le

theorem hits_concat (key : Address) (records : List Record) (r : Record) :
    hits key (records ++ [r]) = hits key records + (r.hits key).toNat := by
  rw [hits, List.countP_append, List.countP_singleton]
  cases r.hits key <;> rfl

theorem rules_concat (key : Address) (records : List Record) (r : Record) :
    rules key (records ++ [r]) = rules key records ++ (r.rule? key).toList := by
  rw [rules, List.filterMap_append]
  cases hr : r.rule? key with
  | none => rw [List.filterMap_cons_none hr]; rfl
  | some rule => rw [List.filterMap_cons_some hr]; rfl

theorem mem_clients_concat (key : Address) (records : List Record) (r : Record) :
    key ∈ clients (records ++ [r]) ↔ key ∈ clients records ∨ r.client? = some key := by
  simp only [clients, List.mem_dedup, List.filterMap_append, List.mem_append, List.mem_filterMap,
    List.mem_singleton, exists_eq_left]

/-- Fewer than `2 ^ 64` records are countable, whatever they are.  The bound itself asks less: time
and sweeps do not count. -/
theorem countable_of_length {history : List Record} (h : history.length < UInt64.size) :
    Countable history := fun _ =>
  ⟨Nat.lt_of_le_of_lt List.countP_le_length h,
    Nat.lt_of_le_of_lt (List.length_filterMap_le _ _) h⟩

/-- What came before was no more, so that a bound on a whole history is one on each part of it. -/
theorem Countable.of_append {before after : List Record} (h : Countable (before ++ after)) :
    Countable before := by
  intro key
  obtain ⟨hhits, hrules⟩ := h key
  rw [hits, List.countP_append] at hhits
  rw [rules, List.filterMap_append, List.length_append] at hrules
  exact ⟨Nat.lt_of_le_of_lt (Nat.le_add_right _ _) hhits,
    Nat.lt_of_le_of_lt (Nat.le_add_right _ _) hrules⟩

/-- One more hit of a client can be counted behind the last sweep that removed all, so the counter
does not wrap. -/
theorem Countable.room_hit {past : List Record} {a : Address} (h : Countable (past ++ [.hit a])) :
    hits a.canonical (since past) + 1 < UInt64.size := by
  have hroom := (h a.canonical).1
  rw [hits_concat, Record.hits, beq_self_eq_true, Bool.toNat_true] at hroom
  exact Nat.lt_of_le_of_lt (Nat.succ_le_succ (hits_since_le _ past)) hroom

/-- So can one more match of a client, in the counter beside it. -/
theorem Countable.room_matched {past : List Record} {a : Address} {rule : RuleId}
    (h : Countable (past ++ [.matched a rule])) :
    (rules a.canonical (since past)).length + 1 < UInt64.size := by
  have hroom := (h a.canonical).2
  rw [rules_concat, Record.rule?, if_pos rfl, Option.toList_some, List.length_append] at hroom
  exact Nat.lt_of_le_of_lt (Nat.succ_le_succ (length_rules_since_le _ past)) hroom

end History

namespace HitTable

/-- **One record more** on both sides: in the history at its end, and in the table by what is done
for it. -/
def record (t : HitTable) : Record → HitTable
  | .hit a => (t.recordHit a).2
  | .matched a rule => t.recordMatch a rule
  | .sweep idle => (t.sweep idle).2
  | .elapse millis => t.elapse millis

/-- **Record after record**, behind a past that is summed up.  By induction on the records that
follow; the past grows by one with each of them. -/
def replay (t : HitTable) (history : List Record) : HitTable :=
  history.foldl record t

/-- A sweep removes all entries, because it is for less than a millisecond, or it removes none. -/
def Whole (t : HitTable) : Record → Prop
  | .sweep idle => idle.millis = 0 ∨ (t.sweep idle).2.size = t.size
  | _ => True

/-- No sweep of a history removes some entries and keeps others. -/
def Wholesale (t : HitTable) : List Record → Prop
  | [] => True
  | r :: history => t.Whole r ∧ (t.record r).Wholesale history

end HitTable

/-! ## 2. Summaries -/

open History (since)

/-- A tally counts the records of a client. -/
structure Tally.Sums (tally : Tally) (key : Address) (records : List Record) : Prop where
  hits : tally.hits.toNat = History.hits key records
  matched : tally.matched.toNat = (History.rules key records).length
  lastRule : tally.lastRule = (History.rules key records).getLast?

namespace Tally.Sums

variable {tally : Tally} {key : Address} {records : List Record}

/-- Nothing has been recorded of a client without a tally, and a tally of zeros says so. -/
theorem blank (key : Address) : Tally.Sums {} key [] := ⟨rfl, rfl, rfl⟩

/-- Records about others make no difference, neither to the counts nor to the last rule. -/
theorem other (h : tally.Sums key records) {r : Record} (hr : r.client? ≠ some key) :
    tally.Sums key (records ++ [r]) := by
  obtain ⟨hhits, hrule⟩ := Record.unconcerned hr
  have hsame : History.hits key (records ++ [r]) = History.hits key records := by
    rw [History.hits_concat, hhits]
    rfl
  have hrules : History.rules key (records ++ [r]) = History.rules key records := by
    rw [History.rules_concat, hrule]
    exact List.append_nil _
  refine ⟨?_, ?_, ?_⟩
  · rw [hsame, h.hits]
  · rw [hrules, h.matched]
  · rw [hrules, h.lastRule]

theorem hit (h : tally.Sums key records) (hroom : History.hits key records + 1 < UInt64.size)
    (clock : Nat) {a : Address} (ha : a.canonical = key) :
    (tally.hit clock).Sums key (records ++ [.hit a]) := by
  have hrules : History.rules key (records ++ [.hit a]) = History.rules key records := by
    rw [History.rules_concat]
    exact List.append_nil _
  refine ⟨?_, ?_, ?_⟩
  · rw [History.hits_concat, Record.hits, beq_iff_eq.2 ha, ← h.hits]
    exact toNat_add_one (h.hits ▸ hroom)
  · rw [hrules, ← h.matched]
    rfl
  · rw [hrules, lastRule_hit, h.lastRule]

theorem ruled (h : tally.Sums key records)
    (hroom : (History.rules key records).length + 1 < UInt64.size)
    (rule : RuleId) {a : Address} (ha : a.canonical = key) :
    (tally.ruled rule).Sums key (records ++ [.matched a rule]) := by
  have hrules : History.rules key (records ++ [.matched a rule]) =
      History.rules key records ++ [rule] := by
    rw [History.rules_concat, Record.rule?, if_pos ha]
    rfl
  refine ⟨?_, ?_, ?_⟩
  · rw [History.hits_concat]
    exact h.hits
  · rw [hrules, List.length_append, ← h.matched]
    exact toNat_add_one (h.matched ▸ hroom)
  · rw [hrules, lastRule_ruled, List.getLast?_append]
    rfl

end Tally.Sums

namespace HitTable

/-- **A table sums up records**: it has an entry for each client that they name, and each tally
counts its client's records. -/
structure Sums (t : HitTable) (records : List Record) : Prop where
  entry (key : Address) : (t.tallies.get? key).isSome ↔ key ∈ History.clients records
  tally (key : Address) : ((t.tallies.get? key).getD {}).Sums key records

namespace Sums

variable {t t' : HitTable} {records : List Record}

/-- A table without entries sums up an empty history, as at the start and behind a sweep that
removed all. -/
theorem blank (h : ∀ key, t.tallies.get? key = none) : t.Sums [] := by
  refine ⟨?_, ?_⟩
  · intro key
    rw [h]
    exact iff_of_false Bool.false_ne_true List.not_mem_nil
  · intro key
    rw [h]
    exact .blank key

/-- A record that names nobody leaves every tally as it is, though time may have passed. -/
theorem silent (h : t.Sums records) {r : Record} (hr : r.client? = none)
    (hsame : ∀ key, t'.tallies.get? key = t.tallies.get? key) : t'.Sums (records ++ [r]) := by
  have hother : ∀ key, r.client? ≠ some key := by
    intro key he
    rw [hr] at he
    cases he
  refine ⟨?_, ?_⟩
  · intro key
    rw [hsame, h.entry, History.mem_clients_concat]
    exact (or_iff_left (hother key)).symm
  · intro key
    rw [hsame]
    exact (h.tally key).other (hother key)

/-- A record of a client changes its tally, and no other.  If the tally still sums up the client's
records, the table does so for all clients. -/
theorem change (h : t.Sums records) {r : Record} {a : Address}
    (hr : r.client? = some a.canonical) {f : Tally → Tally}
    (hf : (f (t.tally a)).Sums a.canonical (records ++ [r])) :
    (t.change a f).Sums (records ++ [r]) := by
  refine ⟨?_, ?_⟩
  · intro key
    rw [get?_change, History.mem_clients_concat, hr, Option.some.injEq]
    by_cases hk : key = a.canonical
    · rw [if_pos hk]
      exact iff_of_true rfl (.inr hk.symm)
    · rw [if_neg hk, h.entry]
      exact (or_iff_left (Ne.symm hk)).symm
  · intro key
    rw [get?_change]
    by_cases hk : key = a.canonical
    · rw [if_pos hk, hk]
      exact hf
    · rw [if_neg hk]
      refine (h.tally key).other ?_
      rw [hr]
      exact fun he => hk (Option.some.inj he).symm

/-- The tallies of a table are as many as the clients that have records, since both lists hold each
client once. -/
theorem size_eq (h : t.Sums records) : t.size = (History.clients records).length := by
  have hkeys : t.tallies.keys.Perm (History.clients records) := by
    refine (List.perm_ext_iff_of_nodup t.tallies.distinct (List.nodup_dedup _)).2 fun key => ?_
    exact (Dictionary.lookup_isSome_iff key t.tallies.entries).symm.trans (h.entry key)
  have hlength := hkeys.length_eq
  rw [Dictionary.keys, List.length_map] at hlength
  exact hlength

end Sums

/-! ## 3. Sweeps -/

/-- A sweep for less than a millisecond leaves nobody, as even who came just now has been idle for
that long. -/
theorem get?_sweep_all (t : HitTable) {idle : Duration} (h : idle.millis = 0) (key : Address) :
    (t.sweep idle).2.tallies.get? key = none := by
  rw [sweep, Dictionary.get?_filter, Option.filter_eq_none_iff]
  intro tally _
  rw [h]
  exact of_decide_eq_false rfl

/-- A sweep behind which there are as many entries as before has removed none, and so has changed
nothing. -/
theorem sweep_none (t : HitTable) {idle : Duration} (h : (t.sweep idle).2.size = t.size) :
    (t.sweep idle).2 = t := by
  have hall : (t.sweep idle).2.tallies.entries = t.tallies.entries := by
    refine List.filter_eq_self.2 ?_
    exact List.length_filter_eq_length_iff.1 h
  obtain ⟨clock, ⟨entries, distinct⟩⟩ := t
  simp only [sweep, Dictionary.filter] at hall ⊢
  congr

/-- **A sweep tells how many went**: it counts them one by one, and the table shrinks by as many. -/
theorem sweep_fst (t : HitTable) (idle : Duration) :
    (t.sweep idle).1 + (t.sweep idle).2.size = t.size :=
  t.tallies.failing_add_size_filter fun _ tally => t.clock - tally.lastHit < idle.millis

namespace Sums

variable {t : HitTable} {past : List Record}

/-- **One record more** on both sides. -/
theorem record (h : t.Sums (since past)) {r : Record} (hroom : History.Countable (past ++ [r]))
    (hr : t.Whole r) : (t.record r).Sums (since (past ++ [r])) := by
  rw [History.since_concat]
  cases r with
  | hit a =>
    rw [HitTable.record, recordHit_eq]
    exact h.change rfl ((h.tally a.canonical).hit hroom.room_hit t.clock rfl)
  | matched a rule =>
    rw [HitTable.record, recordMatch_eq]
    exact h.change rfl ((h.tally a.canonical).ruled hroom.room_matched rule rfl)
  | sweep idle =>
    by_cases hidle : idle.millis = 0
    · have hclears : (Record.sweep idle).clears = true := beq_iff_eq.2 hidle
      rw [if_pos hclears]
      exact .blank (t.get?_sweep_all hidle)
    · have hkeeps : ¬(Record.sweep idle).clears = true := mt beq_iff_eq.1 hidle
      rw [if_neg hkeeps]
      have hnone : (t.sweep idle).2 = t := t.sweep_none (hr.resolve_left hidle)
      exact h.silent rfl fun key => by rw [HitTable.record, hnone]
  | elapse millis => exact h.silent rfl fun _ => rfl

/-- **Record after record**, behind a past that is summed up. -/
theorem replay : ∀ (history past : List Record) {t : HitTable}, t.Sums (since past) →
    History.Countable (past ++ history) → t.Wholesale history →
    (t.replay history).Sums (since (past ++ history))
  | [], past, _, h, _, _ => by
    rw [List.append_nil]
    exact h
  | r :: history, past, t, h, hroom, hwhole => by
    have hassoc : past ++ r :: history = past ++ [r] ++ history := by simp
    rw [hassoc] at hroom ⊢
    exact replay history (past ++ [r]) (h.record hroom.of_append hwhole.1) hroom hwhole.2

end Sums

theorem Wholesale.of_append : ∀ {before after : List Record} {t : HitTable},
    t.Wholesale (before ++ after) → t.Wholesale before
  | [], _, _, _ => trivial
  | _ :: _, _, _, h => ⟨h.1, of_append h.2⟩

/-- Every history from the start, that is from a table that nobody has used. -/
theorem sums_history {history : List Record} (hroom : History.Countable history)
    (hwhole : empty.Wholesale history) : (empty.replay history).Sums (since history) :=
  Sums.replay history [] (.blank fun _ => rfl) hroom hwhole

/-- A hit that is one of so few gets the number that is the count behind it, so rules see the hit
that they decide. -/
theorem number_eq_hits {t : HitTable} {a : Address}
    (hroom : (t.tally a).hits.toNat + 1 < UInt64.size) :
    (t.recordHit a).1 = ((t.recordHit a).2.tally a).hits := by
  have hbehind : ((t.recordHit a).2.tally a) = (t.tally a).hit t.clock := by
    rw [recordHit_eq, tally, tally?_change, if_pos rfl, Option.getD_some]
  rw [hbehind, recordHit_eq, Tally.ordinal_eq hroom]
  rfl

theorem lastHit?_isSome_iff (t : HitTable) (a : Address) :
    (t.lastHit? a).isSome ↔ 0 < (t.tally a).hits.toNat := by
  rw [lastHit?, tally]
  cases t.tally? a with
  | none => exact iff_of_false Bool.false_ne_true (Nat.lt_irrefl 0)
  | some tally =>
    rw [Option.bind_some, Option.getD_some, Nat.pos_iff_ne_zero, ne_eq, ← UInt64.toNat_zero,
      UInt64.toNat_inj]
    by_cases hzero : tally.hits = 0
    · rw [if_pos hzero]
      exact iff_of_false Bool.false_ne_true fun h => h hzero
    · rw [if_neg hzero]
      exact iff_of_true rfl hzero

end HitTable

/-! ## 4. Matches by decisions alone -/

namespace Gate

/-- How many hits a call counts: one if it is a request, whatever becomes of it. -/
def hitsOf : Call → Nat
  | .decide .. | .action .. | .serve _ => 1
  | _ => 0

/-- Gates that so many hits lead to, those of requests and those that are recorded without a
decision, and any other calls in between. -/
inductive Served : Nat → Gate → Prop
  | fresh {g : Gate} : g.table = .empty → Served 0 g
  | call {n : Nat} {g : Gate} (c : Call) : Served n g → Served (n + hitsOf c) (g.perform c).2
  | hit {n : Nat} {g : Gate} (a : Address) :
      Served n g → Served (n + 1) { g with table := (g.table.recordHit a).2 }

/-- Whoever is in the table has been hit, and as often as a rule has matched at least. -/
def Accounted (n : Nat) (t : HitTable) : Prop :=
  ∀ key tally, t.tallies.get? key = some tally →
    0 < tally.hits.toNat ∧ tally.matched.toNat ≤ tally.hits.toNat ∧ tally.hits.toNat ≤ n

namespace Accounted

variable {n : Nat} {t : HitTable}

theorem tally (h : Accounted n t) (a : Address) :
    (t.tally a).matched.toNat ≤ (t.tally a).hits.toNat ∧ (t.tally a).hits.toNat ≤ n := by
  unfold HitTable.tally HitTable.tally?
  cases hk : t.tallies.get? a.canonical with
  | none => exact ⟨Nat.le_refl _, Nat.zero_le _⟩
  | some tally => exact (h _ tally hk).2

theorem mono (h : Accounted n t) : Accounted (n + 1) t := by
  intro key tally hk
  obtain ⟨hpos, hle, hbound⟩ := h key tally hk
  exact ⟨hpos, hle, Nat.le_succ_of_le hbound⟩

/-- A tally in place of another one, which has one hit more and no more matches than hits.  All that
a decision does to the table is of this kind. -/
theorem put (h : Accounted n t) {t' : HitTable} {a : Address} {new : Tally}
    (hget : ∀ key, t'.tallies.get? key =
      if key = a.canonical then some new else t.tallies.get? key)
    (hhits : new.hits.toNat = (t.tally a).hits.toNat + 1)
    (hmatched : new.matched.toNat ≤ (t.tally a).matched.toNat + 1) : Accounted (n + 1) t' := by
  intro key tally hk
  rw [hget] at hk
  by_cases he : key = a.canonical
  · rw [if_pos he, Option.some.injEq] at hk
    obtain ⟨hle, hbound⟩ := h.tally a
    rw [← hk]
    omega
  · rw [if_neg he] at hk
    exact h.mono key tally hk

theorem sweep (h : Accounted n t) (idle : Duration) : Accounted n (t.sweep idle).2 := by
  intro key tally hk
  rw [HitTable.sweep, Dictionary.get?_filter, Option.filter_eq_some_iff] at hk
  exact h key tally hk.1

theorem hit (h : Accounted n t) (hroom : n + 1 < UInt64.size) (a : Address) :
    Accounted (n + 1) (t.recordHit a).2 := by
  have hbound := (h.tally a).2
  rw [HitTable.recordHit_eq]
  exact h.put (t.get?_change a · _) (Tally.toNat_add_one (by omega)) (Nat.le_succ _)

/-- **A decision counts one hit, and one match at most**, so no client has more matches than
hits. -/
theorem decide {g : Gate} (h : Accounted n g.table) (hroom : n + 1 < UInt64.size)
    (rules : List Rule) (r : Request) : Accounted (n + 1) (g.decide rules r).2.table := by
  obtain ⟨hle, hbound⟩ := h.tally r.address
  have hh : (g.table.tally r.address).hits.toNat + 1 < UInt64.size := by omega
  have hm : (g.table.tally r.address).matched.toNat + 1 < UInt64.size := by omega
  obtain ⟨hhits, -, hnamed, hnone⟩ :=
    Tally.decided_fields hh hm g.table.clock (g.decide rules r).1
  refine h.put (g.decide_get? rules r) ?_ ?_
  · rw [hhits, Tally.ordinal_eq hh, Tally.toNat_add_one hh]
  · rcases hrule : namedRule (g.decide rules r).1 with _ | rule
    · rw [(hnone hrule).1]
      exact Nat.le_succ _
    · exact Nat.le_of_eq (hnamed rule hrule).1

/-- What decides alike has the same table, so work on rules needs no account. -/
theorem of_agrees {g g' : Gate} (h : Accounted n g.table) (hg : g'.Agrees g) :
    Accounted n g'.table := by
  rwa [hg.table]

/-- **One call** adds the hits that it makes to the account.  Only requests make any, and sweeps
take entries out of it. -/
theorem perform {g : Gate} (h : Accounted n g.table) (c : Call)
    (hroom : n + hitsOf c < UInt64.size) : Accounted (n + hitsOf c) (g.perform c).2.table := by
  cases c with
  | decide rules r => exact h.decide hroom rules r
  | action rules r => exact h.decide hroom rules r
  | serve r => exact h.decide hroom g.active.rules r
  | newRule rule text => exact h.of_agrees (newRule_agrees g rule text)
  | compile configs => exact h.of_agrees (compile_agrees g configs)
  | reload configs => exact h.of_agrees (reload_agrees g configs)
  | store rules => exact h
  | sweep idle => exact h.sweep idle
  | sweepOnTime idle => exact h.sweep idle
  | elapse millis => exact h

end Accounted

theorem Served.accounted {n : Nat} {g : Gate} (h : Served n g) (hroom : n < UInt64.size) :
    Accounted n g.table := by
  induction h with
  | fresh hempty =>
    rw [hempty]
    intro key tally hk
    cases hk
  | call c _ ih => exact (ih (by omega)).perform c hroom
  | hit a _ ih => exact (ih (by omega)).hit hroom a

end Gate

/-! ## 5. What a table says of its history -/

open HitTable (empty)

/-- **The table is the summary of its history.**  Behind any history in which no client is hit
`2 ^ 64` times and none is matched so often, by any addresses and with sweeps that remove all
entries or none, and looking at the records since all was removed last: a client has as many hits as
there are hits at its canonical address, and as many matches as matches there, the latest of which
gave it its last rule, if there was one; its last hit is known if it has been hit; the size is the
number of clients that were named; and each hit was told the client's hits with it.  A sweep always
tells how many entries went.  If matches come from decisions only, a client never has more matches
than hits, and has an entry exactly if it has been hit, whatever sweeps remove. -/
theorem table_sums_up :
    (∀ history : List Record, History.Countable history → empty.Wholesale history →
      (∀ a : Address,
        ((empty.replay history).tally a).hits.toNat =
          History.hits a.canonical (since history) ∧
        ((empty.replay history).tally a).matched.toNat =
          (History.rules a.canonical (since history)).length ∧
        ((empty.replay history).tally a).lastRule =
          (History.rules a.canonical (since history)).getLast? ∧
        (((empty.replay history).lastHit? a).isSome ↔
          0 < ((empty.replay history).tally a).hits.toNat)) ∧
      (empty.replay history).size = (History.clients (since history)).length ∧
      ∀ before a, before ++ [.hit a] <+: history →
        ((empty.replay before).recordHit a).1 =
          ((empty.replay (before ++ [.hit a])).tally a).hits) ∧
    (∀ (t : HitTable) (idle : Duration),
      (t.sweep idle).1 + (t.sweep idle).2.size = t.size ∧
      (idle.millis = 0 → (t.sweep idle).2.size = 0)) ∧
    (∀ (n : Nat) (g : Gate), g.Served n → n < UInt64.size → ∀ a : Address,
      (g.table.tally a).matched.toNat ≤ (g.table.tally a).hits.toNat ∧
      ((g.table.tally? a).isSome ↔ 0 < (g.table.tally a).hits.toNat)) := by
  refine ⟨?_, ?_, ?_⟩
  · intro history hroom hwhole
    have hsums := HitTable.sums_history hroom hwhole
    refine ⟨?_, hsums.size_eq, ?_⟩
    · intro a
      have htally := hsums.tally a.canonical
      exact ⟨htally.hits, htally.matched, htally.lastRule, HitTable.lastHit?_isSome_iff _ a⟩
    · rintro before a ⟨after, rfl⟩
      have hcountable := hroom.of_append
      have hbefore := HitTable.sums_history hcountable.of_append hwhole.of_append.of_append
      have hroom' : ((empty.replay before).tally a).hits.toNat + 1 < UInt64.size :=
        (hbefore.tally a.canonical).hits ▸ hcountable.room_hit
      have hstep : empty.replay (before ++ [.hit a]) = ((empty.replay before).recordHit a).2 :=
        List.foldl_append
      rw [hstep]
      exact HitTable.number_eq_hits hroom'
  · intro t idle
    refine ⟨t.sweep_fst idle, ?_⟩
    intro hidle
    exact (HitTable.Sums.blank (t.get?_sweep_all hidle)).size_eq
  · intro n g hserved hroom a
    have haccounted := hserved.accounted hroom
    refine ⟨(haccounted.tally a).1, ?_⟩
    rw [HitTable.tally]
    cases ha : g.table.tally? a with
    | none => exact iff_of_false Bool.false_ne_true (Nat.lt_irrefl 0)
    | some tally => exact iff_of_true rfl (haccounted _ tally ha).1

/-- `10.0.0.1` comes before all is removed.  Then it comes twice, once by its mapped address; the
rule with the largest identifier matches for `10.0.0.2`, which has not come; and a sweep for an
hour finds nobody to remove. -/
def comings : List Record :=
  [.hit (.v4 0x0A000001#32), .sweep (.ofMicros 999), .hit (.v6 (Address.mapped 0x0A000001#32)),
    .hit (.v4 0x0A000001#32), .matched (.v4 0x0A000002#32) 0xFFFFFFFF, .elapse 1000,
    .sweep (.ofSeconds 3600)]

/-- Two clients are left, one with two hits and one with a match; and a client that a gate rejects
at its second coming has one match by then. -/
theorem table_sums_up_comings :
    History.Countable comings ∧ empty.Wholesale comings ∧
    ((empty.replay comings).tally (.v4 0x0A000001#32)).hits.toNat = 2 ∧
    ((empty.replay comings).tally (.v4 0x0A000002#32)).lastRule = some 0xFFFFFFFF ∧
    (empty.replay comings).size = 2 ∧
    ∃ g : Gate, g.Served 2 ∧ (g.table.tally (.v4 0x0A000001#32)).matched.toNat = 1 ∧
      1 ≤ (g.table.tally (.v4 0x0A000001#32)).hits.toNat := by
  have hcountable : History.Countable comings := History.countable_of_length (by decide)
  have hwhole : empty.Wholesale comings :=
    ⟨trivial, .inl rfl, trivial, trivial, trivial, trivial, .inr rfl, trivial⟩
  obtain ⟨htallies, hsize, -⟩ := table_sums_up.1 comings hcountable hwhole
  have hserved : Gate.Served 2 (Gate.perform { table := (empty.recordHit (.v4 0x0A000001#32)).2 }
      (.decide [⟨1, .hitsAbove 1, "reject"⟩] (.ofAddress (.v4 0x0A000001#32)))).2 :=
    .call (.decide [⟨1, .hitsAbove 1, "reject"⟩] (.ofAddress (.v4 0x0A000001#32)))
      (.hit (g := {}) _ (.fresh rfl))
  refine ⟨hcountable, hwhole, ?_, ?_, ?_, _, hserved, rfl, ?_⟩
  · rw [(htallies (.v4 0x0A000001#32)).1]
    rfl
  · rw [(htallies (.v4 0x0A000002#32)).2.2.1]
    rfl
  · rw [hsize]
    rfl
  · exact (table_sums_up.2.2 2 _ hserved (by decide) (.v4 0x0A000001#32)).1

end Turnstile
