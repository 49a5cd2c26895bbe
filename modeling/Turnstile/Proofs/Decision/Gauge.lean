/-
# The gauge of clients

The gauge is kept in two ways.  A sweep in the background sets it to the size of the hit table; a
request that is decided adds one to it if it is the first of its client.  A request that fails
leaves its client in the table all the same, and the gauge does not hear of it: after one failed
first request the table has a client and the gauge says zero (`gauge_behind_failed_request`).

**The gauge is behind by the failed first requests since the last sweep, and by nothing else.**
`Gate.missed` counts them along a run.  The count and the gauge together are the size of the table
behind every run (`Gauged`), so the gauge is right exactly if the count is zero (`gauge_exact_iff`).
-/
import Turnstile.Proofs.Decision.Metering

namespace Turnstile

open Gate (Decision)

/-! ## 1. Sizes -/

namespace HitTable

variable (t : HitTable) (a : Address)

theorem size_change (f : Tally → Tally) :
    (t.change a f).size = if (t.tally? a).isSome then t.size else t.size + 1 :=
  Dictionary.size_insert _ _ _

/-- A match adds no client behind a hit, since the hit has made the entry. -/
theorem size_recordNamed (rule? : Option RuleId) :
    ((t.recordHit a).2.recordNamed a rule?).size =
      if (t.tally? a).isSome then t.size else t.size + 1 := by
  rw [recordHit_eq, ← size_change t a (.hit t.clock)]
  cases rule? with
  | none => rfl
  | some rule =>
    have hsome : ((t.change a (.hit t.clock)).tally? a).isSome := by
      rw [tally?_change, if_pos rfl]
      rfl
    rw [recordNamed, recordMatch_eq, size_change, if_pos hsome]

theorem size_sweep_le (idle : Duration) : (t.sweep idle).2.size ≤ t.size :=
  List.length_filter_le _ _

end HitTable

namespace Gate

variable (g : Gate)

theorem decide_size (rules : List Rule) (r : Request) :
    (g.decide rules r).2.table.size =
      if (g.table.tally? r.address).isSome then g.table.size else g.table.size + 1 := by
  rw [decide_table, HitTable.size_recordNamed]

/-! ## 2. The gauge -/

/-- What the gauge says, if there are metrics. -/
def gauge? : Option Int := g.metrics.map Metrics.clients

theorem decide_gauge (rules : List Rule) (r : Request) :
    (g.decide rules r).2.gauge? = g.gauge?.map fun clients =>
      if (g.table.recordHit r.address).1 = 1 ∧ (g.decide rules r).1.isOk then
        (clients + 1).bmod UInt64.size else clients := by
  rw [gauge?, decide_metrics, gauge?, Option.map_map, Option.map_map]
  rfl

theorem newRule_gauge (rule : RuleId) (text : String) :
    (g.newRule rule text).2.gauge? = g.gauge? := by
  have hclients : ∀ (result : Except Error Rule) (m : Metrics),
      (m.attempted result).clients = m.clients := by
    intro result m
    rcases result with e | made
    · cases e <;> rfl
    · rfl
  rw [gauge?, newRule_metrics, Option.map_map]
  exact congrArg (g.metrics.map ·) (funext (hclients _))

/-- Whether a request is the first of its client and fails. -/
def failsFirst (rules : List Rule) (r : Request) : Bool :=
  (g.table.tally? r.address).isNone && !(g.decide rules r).1.isOk

/-- The clients that the gauge has missed since the last sweep, behind one call more. -/
def missedBehind (missed : Nat) (c : Call) : Nat :=
  match g.given c with
  | .decide rules r | .action rules r => missed + (g.failsFirst rules r).toNat
  | .sweepOnTime _ => 0
  | _ => missed

/-- The clients that the gauge has missed since the last sweep, behind a run. -/
def missed (g : Gate) (before : Nat) : List Call → Nat
  | [] => before
  | c :: cs => missed (g.perform c).2 (g.missedBehind before c) cs

end Gate

/-! ## 3. What holds along a run -/

/-- **What holds behind every run without sweeps by hand**, after so many calls and with so many
clients missed.  That every client in the table has come makes the first hit of a client the one
with the number one. -/
structure Gauged (g : Gate) (calls missed : Nat) : Prop where
  bounded : HitTable.Bounded calls calls g.table
  came (a : Address) (tally : Tally) : g.table.tally? a = some tally → 0 < tally.hits.toNat
  size_le : g.table.size ≤ calls
  missed_le : missed ≤ g.table.size
  gauge : g.gauge? = some ((g.table.size : Int) - missed)

namespace Gauged

variable {g : Gate} {calls missed : Nat}

/-- A gate that nobody has asked anything: the table is empty, the gauge is zero, and nobody has
been missed. -/
theorem start {m : Metrics} (htable : g.table.size = 0) (hmetrics : g.metrics = some m)
    (hclients : m.clients = 0) : Gauged g 0 0 := by
  have hempty : g.table.tallies.entries = [] := List.eq_nil_of_length_eq_zero htable
  have hnone : ∀ k, g.table.tallies.get? k = none := by
    intro k
    rw [Dictionary.get?, hempty]
    rfl
  refine ⟨?_, ?_, Nat.le_of_eq htable, Nat.zero_le _, ?_⟩
  · intro k tally hk
    rw [hnone] at hk
    cases hk
  · intro a tally ha
    rw [HitTable.tally?, hnone] at ha
    cases ha
  · rw [Gate.gauge?, hmetrics, htable, Option.map_some, hclients]
    rfl

theorem mono (h : Gauged g calls missed) : Gauged g (calls + 1) missed :=
  ⟨h.bounded.mono (Nat.le_succ _) (Nat.le_succ _), h.came, Nat.le_succ_of_le h.size_le,
    h.missed_le, h.gauge⟩

/-- Nothing changes with a gate that decides alike and whose gauge says the same, as behind any work
on rules. -/
theorem of_agrees (h : Gauged g calls missed) {g' : Gate} (hg : g'.Agrees g)
    (hgauge : g'.gauge? = g.gauge?) : Gauged g' calls missed := by
  have htable := hg.table
  refine ⟨?_, ?_, ?_, ?_, ?_⟩
  · rw [htable]
    exact h.bounded
  · rw [htable]
    exact h.came
  · rw [htable]
    exact h.size_le
  · rw [htable]
    exact h.missed_le
  · rw [hgauge, htable]
    exact h.gauge

theorem newRule (h : Gauged g calls missed) (rule : RuleId) (text : String) :
    Gauged (g.newRule rule text).2 calls missed :=
  h.of_agrees (Gate.newRule_agrees g rule text) (g.newRule_gauge rule text)

theorem store (h : Gauged g calls missed) (rules : RuleSet) :
    Gauged (g.store rules) calls missed :=
  h.of_agrees ⟨rfl, rfl, rfl⟩ rfl

/-- A hit has the number one if it is the first of its client, and only then.  A counter that
wrapped would break this, hence the bound on calls. -/
theorem number_eq_one_iff (h : Gauged g calls missed) (hroom : calls + 1 < UInt64.size)
    (a : Address) : (g.table.recordHit a).1 = 1 ↔ g.table.tally? a = none := by
  have hfull := (h.bounded.room hroom hroom a).1
  rw [HitTable.recordHit_eq]
  show (g.table.tally a).ordinal = 1 ↔ _
  rw [Tally.ordinal_eq hfull, ← UInt64.toNat_inj, Tally.toNat_add_one hfull]
  rcases ha : g.table.tally? a with _ | tally
  · have hzero : g.table.tally a = {} := by rw [HitTable.tally, ha]; rfl
    rw [hzero]
    exact ⟨fun _ => rfl, fun _ => rfl⟩
  · have htally : g.table.tally a = tally := by rw [HitTable.tally, ha]; rfl
    have hcame := h.came a tally ha
    rw [htally]
    constructor
    · intro hone
      change tally.hits.toNat + 1 = 1 at hone
      omega
    · intro hnone
      cases hnone

/-- Whoever is in the table behind a request has come: the client itself by this request, and all
others before. -/
theorem came_decide (h : Gauged g calls missed) (hroom : calls + 1 < UInt64.size)
    (rules : List Rule) (r : Request) (a : Address) (tally : Tally)
    (ha : (g.decide rules r).2.table.tally? a = some tally) : 0 < tally.hits.toNat := by
  rw [(g.decides rules r).tallies a] at ha
  by_cases hclient : a.canonical = r.address.canonical
  · obtain ⟨hh, hm⟩ := h.bounded.room hroom hroom r.address
    rw [if_pos hclient, Option.some.injEq] at ha
    rw [← ha, (Tally.decided_fields hh hm _ _).1, Tally.ordinal_eq hh, Tally.toNat_add_one hh]
    exact Nat.succ_pos _
  · rw [if_neg hclient] at ha
    exact h.came a tally ha

/-- **A request.**  If it is the first of its client, the table grows; the gauge grows with it
unless the request fails. -/
theorem decide (h : Gauged g calls missed) (hroom : calls + 1 ≤ Metrics.maxClients)
    (rules : List Rule) (r : Request) :
    Gauged (g.decide rules r).2 (calls + 1) (missed + (g.failsFirst rules r).toNat) := by
  have hwords : calls + 1 < UInt64.size :=
    Nat.lt_of_le_of_lt hroom (by decide : Metrics.maxClients < UInt64.size)
  have hbounded := Gate.decide_bounded h.bounded rules r
  have hcame := h.came_decide hwords rules r
  have hsize := g.decide_size rules r
  have hgauge := g.decide_gauge rules r
  have hnumber := h.number_eq_one_iff hwords r.address
  have hle := h.size_le
  have hmissed := h.missed_le
  rw [h.gauge, Option.map_some] at hgauge
  rcases ha : g.table.tally? r.address with _ | tally
  · have hgrown : (g.decide rules r).2.table.size = g.table.size + 1 := by rw [hsize, ha]; rfl
    rw [hnumber.2 ha] at hgauge
    rcases hresult : (g.decide rules r).1 with e | decision
    · -- the first request of its client, and it fails
      have hfails : g.failsFirst rules r = true := by rw [Gate.failsFirst, ha, hresult]; rfl
      rw [hresult, if_neg fun hok => Bool.false_ne_true hok.2] at hgauge
      rw [hfails, Bool.toNat_true]
      refine ⟨hbounded, hcame, by omega, by omega, ?_⟩
      rw [hgauge, hgrown, Option.some.injEq]
      omega
    · -- the first request of its client, and it is decided
      have hfails : g.failsFirst rules r = false := by rw [Gate.failsFirst, ha, hresult]; rfl
      have hfits : ((g.table.size : Int) - missed + 1).bmod UInt64.size =
          (g.table.size : Int) - missed + 1 := by
        have hmost : calls + 1 ≤ 9223372036854775807 := hroom
        refine Int.bmod_eq_of_le ?_ ?_
        · show -((18446744073709551616 : Int) / 2) ≤ _
          omega
        · show _ < ((18446744073709551616 : Int) + 1) / 2
          omega
      rw [hresult, if_pos ⟨rfl, rfl⟩, hfits] at hgauge
      rw [hfails, Bool.toNat_false]
      refine ⟨hbounded, hcame, by omega, by omega, ?_⟩
      rw [hgauge, hgrown, Option.some.injEq]
      omega
  · -- a client that is in the table already
    have hkept : (g.decide rules r).2.table.size = g.table.size := by rw [hsize, ha]; rfl
    have hfails : g.failsFirst rules r = false := by rw [Gate.failsFirst, ha]; rfl
    have hlater : ¬((g.table.recordHit r.address).1 = 1 ∧ (g.decide rules r).1.isOk) := by
      rintro ⟨hone, -⟩
      rw [hnumber.1 hone] at ha
      cases ha
    rw [if_neg hlater] at hgauge
    rw [hfails, Bool.toNat_false]
    refine ⟨hbounded, hcame, by omega, by omega, ?_⟩
    rw [hgauge, hkept]
    rfl

/-- **A sweep in the background** sets the gauge right, however many clients it had missed, since it
counts the entries instead of changes. -/
theorem sweepOnTime (h : Gauged g calls missed) (hroom : calls ≤ Metrics.maxClients)
    (idle : Duration) : Gauged (g.sweepOnTime idle) calls 0 := by
  have hsize : (g.table.sweep idle).2.size ≤ calls :=
    Nat.le_trans (g.table.size_sweep_le idle) h.size_le
  have hcame : ∀ a tally, (g.table.sweep idle).2.tally? a = some tally →
      0 < tally.hits.toNat := by
    intro a tally ha
    rw [HitTable.tally?, HitTable.sweep, Dictionary.get?_filter, Option.filter_eq_some_iff] at ha
    exact h.came a tally ha.1
  obtain ⟨m, hm, -⟩ := Option.map_eq_some_iff.1 h.gauge
  refine ⟨h.bounded.sweep idle, hcame, hsize, Nat.zero_le _, ?_⟩
  have hgauge : (g.sweepOnTime idle).gauge? =
      some (min ((g.table.sweep idle).2.size : Int) Metrics.maxClients) := by
    show (g.metrics.map fun m => m.setClients (g.table.sweep idle).2.size).map _ = _
    rw [hm]
    rfl
  have hmax : min ((g.table.sweep idle).2.size : Int) Metrics.maxClients =
      (g.table.sweep idle).2.size := by
    have hmost : calls ≤ 9223372036854775807 := hroom
    refine Int.min_eq_left ?_
    show _ ≤ (9223372036854775807 : Int)
    omega
  rw [hgauge, hmax]
  exact congrArg some (Int.sub_zero _).symm

/-- **Every call but a sweep by hand**, which would remove entries without telling the gauge. -/
theorem perform (h : Gauged g calls missed) (hroom : calls + 1 ≤ Metrics.maxClients) (c : Call)
    (hc : ∀ idle, c ≠ .sweep idle) :
    Gauged (g.perform c).2 (calls + 1) (g.missedBehind missed c) := by
  have newRule_keeps : ∀ (g : Gate) rule text, Gauged g calls missed →
      Gauged (g.newRule rule text).2 calls missed := fun _ rule text hg => hg.newRule rule text
  cases c with
  | decide rules r => exact h.decide hroom rules r
  | action rules r => exact h.decide hroom rules r
  | serve r => exact h.decide hroom g.active.rules r
  | newRule rule text => exact (h.newRule rule text).mono
  | compile configs =>
    exact (Gate.compile_keeps newRule_keeps h configs).mono
  | reload configs =>
    exact (Gate.reload_keeps newRule_keeps (fun _ rules hg => store hg rules) h configs).mono
  | store rules => exact (h.store rules).mono
  | sweep idle => exact absurd rfl (hc idle)
  | sweepOnTime idle => exact (h.sweepOnTime (by omega) idle).mono
  | elapse millis => exact ⟨h.mono.1, h.mono.2, h.mono.3, h.mono.4, h.mono.5⟩

theorem run : ∀ (cs : List Call) {g : Gate} {calls missed : Nat}, Gauged g calls missed →
    calls + cs.length ≤ Metrics.maxClients → (∀ idle, Call.sweep idle ∉ cs) →
    Gauged (g.run cs).2 (calls + cs.length) (g.missed missed cs)
  | [], _, _, _, h, _, _ => h
  | c :: cs, g, calls, missed, h, hroom, hcs => by
    rw [List.length_cons] at hroom ⊢
    have hstep := h.perform (by omega) c fun idle hc => hcs idle (hc ▸ List.mem_cons_self)
    have hrest : ∀ idle, Call.sweep idle ∉ cs := fun idle hm => hcs idle (List.mem_cons_of_mem _ hm)
    have hrun := run cs hstep (by omega) hrest
    rw [Nat.add_right_comm, Nat.add_assoc] at hrun
    exact hrun

end Gauged

/-! ## 4. How far the gauge can be trusted -/

/-- **The gauge is behind by the failed first requests since the last sweep.**  Whatever a gate with
an empty table and fresh metrics is asked, in any order, except for sweeps by hand: the gauge is the
size of the table less the clients that the gauge has missed, so it is the size of the table if and
only if no client was missed.  There may be as many calls as the gauge can count. -/
theorem gauge_exact_iff (g : Gate) (m : Metrics) (calls : List Call)
    (htable : g.table.size = 0) (hmetrics : g.metrics = some m) (hclients : m.clients = 0)
    (hsweeps : ∀ idle, Call.sweep idle ∉ calls) (hroom : calls.length ≤ Metrics.maxClients) :
    g.missed 0 calls ≤ (g.run calls).2.table.size ∧
    (g.run calls).2.gauge? = some (((g.run calls).2.table.size : Int) - g.missed 0 calls) ∧
    ((g.run calls).2.gauge? = some ((g.run calls).2.table.size : Int) ↔
      g.missed 0 calls = 0) := by
  have hrun := Gauged.run calls (.start htable hmetrics hclients) (by omega) hsweeps
  have hgauge := hrun.gauge
  refine ⟨hrun.missed_le, hgauge, ?_⟩
  rw [hgauge, Option.some.injEq]
  constructor
  · intro h
    omega
  · intro h
    rw [h]
    exact Int.sub_zero _

/-- A gate with metrics that nobody has asked anything. -/
def Gate.measured : Gate := { metrics := some {} }

/-- A rule about `10.0.0.0/8`. -/
def rejectTens : Rule :=
  ⟨9, .addressIn (.v4 ⟨0x0A000000#32, 8, by decide, by decide⟩), "reject"⟩

/-- Requests under that rule: twice by `2001:db8::1`, which cannot be tested against an IPv4 block,
and once by `10.0.0.1`. -/
def strangers : List Call :=
  let stranger : Request := .ofAddress (.v6 0x20010DB8000000000000000000000001#128)
  [.decide [rejectTens] stranger, .decide [rejectTens] (.ofAddress (.v4 0x0A000001#32)),
    .action [rejectTens] stranger]

/-- Three requests by two clients, one of whom the gauge has missed, so that it says one of two. -/
theorem gauge_exact_iff_strangers :
    Gate.measured.table.size = 0 ∧ (∀ idle, Call.sweep idle ∉ strangers) ∧
    strangers.length ≤ Metrics.maxClients ∧ Gate.measured.missed 0 strangers = 1 ∧
    (Gate.measured.run strangers).2.table.size = 2 ∧
    (Gate.measured.run strangers).2.gauge? = some 1 := by
  have hsweeps : ∀ idle, Call.sweep idle ∉ strangers := by
    intro idle h
    simp [strangers] at h
  have hgauge :=
    (gauge_exact_iff Gate.measured {} strangers rfl rfl rfl hsweeps (by decide)).2.1
  have hsize : (Gate.measured.run strangers).2.table.size = 2 := rfl
  have hmissed : Gate.measured.missed 0 strangers = 1 := rfl
  rw [hsize, hmissed] at hgauge
  exact ⟨rfl, hsweeps, by decide, hmissed, hsize, hgauge⟩

/-- **The gauge is not the size of the table.**  One request that fails makes an entry, and the
gauge stays at zero. -/
theorem gauge_behind_failed_request :
    (Gate.measured.run (strangers.take 1)).2.table.size = 1 ∧
    (Gate.measured.run (strangers.take 1)).2.gauge? = some 0 := by
  decide

end Turnstile
