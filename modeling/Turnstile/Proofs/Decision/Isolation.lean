/-
# Clients do not notice each other

All clients share one hit table, the active rules, the pool of parsers and the metrics.  A request
changes the entry of its own client, and the metrics; no decision looks at the entry of anyone else,
or at metrics.  So a client hears the same and has the same tally if the requests of all others are
left out, and requests of two clients may change places (`clients_isolated`).

**Both halves compare two gates.**  `Gate.Alike seen` lets two gates differ in their metrics and in
entries that are not `seen`.  It holds between a gate before and behind a request of an unseen
client (`decide_unseen`), and a request of a seen client gets one answer from both (`Alike.decide`).
`Gate.Twins` lets no entry differ, and metrics only in the order of labels; two requests in either
order lead to twins (`perform_swap`).

**All other calls are common to both.**  What keeps a relation between gates through work on rules,
sweeps and time is said once (`Gate.Bisimulation`).
-/
import Turnstile.Proofs.Decision.Metering

namespace Turnstile

open Gate (Decision)

/-! ## 1. Whose calls -/

/-- The client that a call is a request of, by canonical address. -/
def Call.client? : Call → Option Address
  | .decide _ r | .action _ r | .serve r => some r.address.canonical
  | _ => none

/-- Whether a call is a request of a given client, or no request. -/
def Call.concerns (key : Address) (c : Call) : Bool :=
  c.client?.all (· == key)

theorem Call.concerns_iff {key : Address} {c : Call} :
    c.concerns key = true ↔ ∀ k, c.client? = some k → k = key := by
  rw [concerns]
  rcases c.client? with _ | k
  · exact iff_of_true rfl fun _ h => by cases h
  · constructor
    · rintro h _ ⟨⟩
      exact eq_of_beq h
    · intro h
      exact beq_iff_eq.2 (h k rfl)

/-- The replies to the calls that concern a client. -/
def heard (key : Address) (calls : List Call) (replies : List Reply) : List Reply :=
  ((calls.zip replies).filter fun exchange => exchange.1.concerns key).map Prod.snd

theorem heard_cons (key : Address) (c : Call) (calls : List Call) (reply : Reply)
    (replies : List Reply) : heard key (c :: calls) (reply :: replies) =
      if c.concerns key then reply :: heard key calls replies else heard key calls replies := by
  unfold heard
  rw [List.zip_cons_cons, List.filter_cons]
  by_cases h : c.concerns key
  · rw [if_pos h, if_pos h, List.map_cons]
  · rw [if_neg h, if_neg h]

namespace Gate

variable {g g' g'' : Gate}

/-- A request is a decision by some rules, which depend on the gate through the active ones.  So all
three calls for a request are treated as one. -/
theorem perform_request {c : Call} {key : Address} (h : c.client? = some key) (g : Gate) :
    ∃ (rules : List Rule) (r : Request) (answer : Except EvaluationError Decision → Reply),
      r.address.canonical = key ∧ ∀ g' : Gate, g.active = g'.active →
        g'.perform c = (answer (g'.decide rules r).1, (g'.decide rules r).2) := by
  cases c with
  | decide rules r => exact ⟨rules, r, .decision, Option.some.inj h, fun _ _ => rfl⟩
  | action rules r =>
    exact ⟨rules, r, fun result => .action (result.map Decision.action), Option.some.inj h,
      fun _ _ => rfl⟩
  | serve r =>
    refine ⟨g.active.rules, r, .decision, Option.some.inj h, ?_⟩
    intro g' hactive
    rw [hactive]
    rfl
  | _ => cases h

/-! ## 2. Two gates through one call -/

/-- What a relation has to keep so that calls that are no requests keep it. -/
structure Bisimulation (R : Gate → Gate → Prop) : Prop where
  lists (g g' : Gate) : R g g' → g.lists = g'.lists
  newRule (g g' : Gate) (rule : RuleId) (text : String) : R g g' →
    (g.newRule rule text).1 = (g'.newRule rule text).1 ∧
    R (g.newRule rule text).2 (g'.newRule rule text).2
  store (g g' : Gate) (rules : RuleSet) : R g g' → R (g.store rules) (g'.store rules)
  sweep (g g' : Gate) (idle : Duration) : R g g' → R (g.sweep idle).2 (g'.sweep idle).2
  sweepOnTime (g g' : Gate) (idle : Duration) :
    R g g' → R (g.sweepOnTime idle) (g'.sweepOnTime idle)
  elapse (g g' : Gate) (millis : Nat) : R g g' → R (g.elapse millis) (g'.elapse millis)

theorem Bisimulation.perform {R : Gate → Gate → Prop} (hR : Bisimulation R) (h : R g g') {c : Call}
    (hc : c.client? = none) :
    (g.perform c).1 = (g'.perform c).1 ∧ R (g.perform c).2 (g'.perform c).2 := by
  cases c with
  | newRule rule text => exact ⟨rfl, (hR.newRule g g' rule text h).2⟩
  | compile configs =>
    exact ⟨rfl, (compileFrom_related hR.lists hR.newRule configs g g' [] h).2⟩
  | reload configs => exact ⟨rfl, reload_related hR.lists hR.newRule hR.store h configs⟩
  | store rules => exact ⟨rfl, hR.store g g' rules h⟩
  | sweep idle => exact ⟨rfl, hR.sweep g g' idle h⟩
  | sweepOnTime idle => exact ⟨rfl, hR.sweepOnTime g g' idle h⟩
  | elapse millis => exact ⟨rfl, hR.elapse g g' millis h⟩
  | _ => cases hc

/-- **Gates that differ at most in metrics and in entries that are not seen.** -/
structure Alike (seen : Address → Prop) (g g' : Gate) : Prop where
  defaultAction : g.defaultAction = g'.defaultAction
  lists : g.lists = g'.lists
  active : g.active = g'.active
  pool : g.pool = g'.pool
  patience : g.patience = g'.patience
  clock : g.table.clock = g'.table.clock
  entries (key : Address) : seen key → g.table.tallies.get? key = g'.table.tallies.get? key

namespace Alike

variable {seen : Address → Prop}

theorem refl (g : Gate) : Alike seen g g :=
  ⟨rfl, rfl, rfl, rfl, rfl, rfl, fun _ _ => rfl⟩

theorem symm (h : Alike seen g g') : Alike seen g' g :=
  ⟨h.1.symm, h.2.symm, h.3.symm, h.4.symm, h.5.symm, h.6.symm, fun key hk => (h.7 key hk).symm⟩

theorem trans (h : Alike seen g g') (h' : Alike seen g' g'') : Alike seen g g'' :=
  ⟨h.1.trans h'.1, h.2.trans h'.2, h.3.trans h'.3, h.4.trans h'.4, h.5.trans h'.5,
    h.6.trans h'.6, fun key hk => (h.7 key hk).trans (h'.7 key hk)⟩

/-- An attempt to make a rule depends on the pool and on the patience with it, and on no client. -/
theorem newRule (h : Alike seen g g') (rule : RuleId) (text : String) :
    (g.newRule rule text).1 = (g'.newRule rule text).1 ∧
    Alike seen (g.newRule rule text).2 (g'.newRule rule text).2 := by
  obtain ⟨default, lists, active, table, pool, patience, metrics⟩ := g
  obtain ⟨default', lists', active', table', pool', patience', metrics'⟩ := g'
  obtain ⟨hdefault, hlists, hactive, hpool, hpatience, hclock, hentries⟩ := h
  cases hpool
  cases hpatience
  unfold Gate.newRule Gate.acquire
  rcases pool.arrive with ⟨w | ticket, pool'⟩
  · exact ⟨rfl, hdefault, hlists, hactive, rfl, rfl, hclock, hentries⟩
  · cases patience with
    | none => exact ⟨rfl, hdefault, hlists, hactive, rfl, rfl, hclock, hentries⟩
    | some patience => exact ⟨rfl, hdefault, hlists, hactive, rfl, rfl, hclock, hentries⟩

/-- Whether an entry is idle depends on the clock and on the entry alone, so a sweep does to the
entries that are seen what it does without the others. -/
theorem sweep (h : Alike seen g g') (idle : Duration) :
    Alike seen (g.sweep idle).2 (g'.sweep idle).2 := by
  refine ⟨h.defaultAction, h.lists, h.active, h.pool, h.patience, h.clock, ?_⟩
  intro key hk
  simp only [Gate.sweep, HitTable.sweep, Dictionary.get?_filter, h.entries key hk, h.clock]

theorem bisimulation : Bisimulation (Alike seen) where
  lists _ _ h := h.lists
  newRule _ _ rule text h := h.newRule rule text
  store _ _ _ h := ⟨h.defaultAction, h.lists, rfl, h.pool, h.patience, h.clock, h.entries⟩
  sweep _ _ idle h := h.sweep idle
  sweepOnTime _ _ idle h :=
    have hswept := h.sweep idle
    ⟨hswept.defaultAction, hswept.lists, hswept.active, hswept.pool, hswept.patience,
      hswept.clock, hswept.entries⟩
  elapse _ _ _ h := ⟨h.defaultAction, h.lists, h.active, h.pool, h.patience,
    congrArg (· + _) h.clock, h.entries⟩

end Alike

/-- **A request changes no entry but its client's**, so whoever does not look at that entry sees no
difference. -/
theorem decide_unseen {seen : Address → Prop} (g : Gate) (rules : List Rule) {r : Request}
    (hr : ¬seen r.address.canonical) : Alike seen (g.decide rules r).2 g := by
  have hrest := (g.decides rules r).rest
  refine ⟨(congrArg defaultAction hrest :), (congrArg lists hrest :), (congrArg active hrest :),
    (congrArg pool hrest :), (congrArg patience hrest :), g.decide_clock rules r, ?_⟩
  intro key hk
  have hother : key ≠ r.address.canonical := fun he => hr (he ▸ hk)
  rw [decide_get?, if_neg hother]

namespace Alike

variable {seen : Address → Prop}

/-- **A request of a client that is seen** gets the same number, the same result and the same entry
from gates that are alike. -/
theorem decide (h : Alike seen g g') (rules : List Rule) {r : Request}
    (hr : seen r.address.canonical) :
    (g.table.recordHit r.address).1 = (g'.table.recordHit r.address).1 ∧
    (g.decide rules r).1 = (g'.decide rules r).1 ∧
    Alike seen (g.decide rules r).2 (g'.decide rules r).2 := by
  have htally : g.table.tally r.address = g'.table.tally r.address := by
    rw [HitTable.tally, HitTable.tally, HitTable.tally?, HitTable.tally?, h.entries _ hr]
  have hnumber : (g.table.recordHit r.address).1 = (g'.table.recordHit r.address).1 := by
    rw [HitTable.recordHit_eq, HitTable.recordHit_eq, htally]
  have hresult : (g.decide rules r).1 = (g'.decide rules r).1 := by
    rw [decide_fst, decide_fst, facts, facts, hnumber, h.lists, h.defaultAction]
  -- but for the entry, nothing of what is compared changes on either side
  have hfields : Alike (fun _ => False) (g.decide rules r).2 (g'.decide rules r).2 :=
    (g.decide_unseen rules id).trans
      (Alike.trans ⟨h.1, h.2, h.3, h.4, h.5, h.6, fun _ hf => hf.elim⟩
        (g'.decide_unseen rules id).symm)
  refine ⟨hnumber, hresult, hfields.1, hfields.2, hfields.3, hfields.4, hfields.5, hfields.6, ?_⟩
  intro key hk
  rw [decide_get?, decide_get?, hresult, htally, h.clock, h.entries key hk]

/-- **One call to gates that are alike**, by a client that is seen or by nobody: the replies are the
same, and the gates are alike again. -/
theorem perform (h : Alike seen g g') {c : Call} (hc : ∀ key, c.client? = some key → seen key) :
    (g.perform c).1 = (g'.perform c).1 ∧ Alike seen (g.perform c).2 (g'.perform c).2 := by
  rcases hclient : c.client? with _ | key
  · exact bisimulation.perform h hclient
  · obtain ⟨rules, r, answer, hr, hperform⟩ := perform_request hclient g
    obtain ⟨-, hresult, hafter⟩ := h.decide rules (hr ▸ hc key hclient)
    rw [hperform g rfl, hperform g' h.active, hresult]
    exact ⟨rfl, hafter⟩

end Alike

theorem perform_unseen {seen : Address → Prop} (g : Gate) {c : Call} {key : Address}
    (hc : c.client? = some key) (hk : ¬seen key) : Alike seen (g.perform c).2 g := by
  obtain ⟨rules, r, answer, hr, hperform⟩ := perform_request hc g
  rw [hperform g rfl]
  exact g.decide_unseen rules (hr ▸ hk)

/-! ## 3. One client and the others -/

/-- **A run, and the run without the requests of all others.**  A call that concerns the client is
made on both sides, and any other on one, where it changes nothing that is seen. -/
theorem run_concerns (key : Address) : ∀ (calls : List Call) (g g' : Gate),
    Alike (· = key) g g' →
      heard key calls (g.run calls).1 = (g'.run (calls.filter (·.concerns key))).1 ∧
      Alike (· = key) (g.run calls).2 (g'.run (calls.filter (·.concerns key))).2
  | [], _, _, h => ⟨rfl, h⟩
  | c :: calls, g, g', h => by
    rw [run_cons, heard_cons, List.filter_cons]
    by_cases hc : c.concerns key
    · obtain ⟨hreply, hafter⟩ := h.perform (Call.concerns_iff.1 hc)
      obtain ⟨hreplies, hend⟩ := run_concerns key calls _ _ hafter
      rw [if_pos hc, if_pos hc, run_cons, hreply, hreplies]
      exact ⟨rfl, hend⟩
    · obtain ⟨k, hk⟩ := Classical.not_forall.1 (mt Call.concerns_iff.2 hc)
      obtain ⟨hclient, hother⟩ := Classical.not_imp.1 hk
      rw [if_neg hc, if_neg hc]
      exact run_concerns key calls _ _ ((g.perform_unseen hclient hother).trans h)

/-! ## 4. Two requests in either order -/

/-- **Gates that nobody can tell apart**: all entries are equal, and metrics under each label. -/
structure Twins (g g' : Gate) : Prop extends Alike (fun _ => True) g g' where
  metrics : Option.Rel Metrics.Same g.metrics g'.metrics

namespace Twins

theorem rel_map {f f' : Metrics → Metrics} (hf : ∀ m m', m.Same m' → (f m).Same (f' m'))
    {x x' : Option Metrics} (h : Option.Rel Metrics.Same x x') :
    Option.Rel Metrics.Same (x.map f) (x'.map f') := by
  cases h with
  | none => exact .none
  | some hm => exact .some (hf _ _ hm)

theorem size_eq (h : Twins g g') : g.table.size = g'.table.size :=
  Dictionary.size_congr fun key => h.entries key trivial

theorem newRule (h : Twins g g') (rule : RuleId) (text : String) :
    (g.newRule rule text).1 = (g'.newRule rule text).1 ∧
    Twins (g.newRule rule text).2 (g'.newRule rule text).2 := by
  obtain ⟨hresult, hafter⟩ := h.toAlike.newRule rule text
  refine ⟨hresult, hafter, ?_⟩
  rw [newRule_metrics, newRule_metrics, hresult]
  exact rel_map (fun _ _ hm => hm.attempted _) h.metrics

/-- The gauge is set to the size of the table, which is seen from its entries and not from their
order. -/
theorem sweepOnTime (h : Twins g g') (idle : Duration) :
    Twins (g.sweepOnTime idle) (g'.sweepOnTime idle) := by
  have hswept : Twins (g.sweep idle).2 (g'.sweep idle).2 := ⟨h.toAlike.sweep idle, h.metrics⟩
  refine ⟨Alike.bisimulation.sweepOnTime g g' idle h.toAlike, ?_⟩
  have hsize := hswept.size_eq
  unfold Gate.sweepOnTime Gate.measure
  dsimp only
  rw [hsize]
  exact rel_map (fun _ _ hm => hm.setClients _) h.metrics

theorem bisimulation : Bisimulation Twins where
  lists _ _ h := h.lists
  newRule _ _ rule text h := h.newRule rule text
  store g g' rules h := ⟨Alike.bisimulation.store g g' rules h.toAlike, h.metrics⟩
  sweep _ _ idle h := ⟨h.toAlike.sweep idle, h.metrics⟩
  sweepOnTime _ _ idle h := h.sweepOnTime idle
  elapse g g' millis h := ⟨Alike.bisimulation.elapse g g' millis h.toAlike, h.metrics⟩

theorem decide (h : Twins g g') (rules : List Rule) (r : Request) :
    (g.decide rules r).1 = (g'.decide rules r).1 ∧
    Twins (g.decide rules r).2 (g'.decide rules r).2 := by
  obtain ⟨hnumber, hresult, hafter⟩ := h.toAlike.decide rules (r := r) trivial
  refine ⟨hresult, hafter, ?_⟩
  rw [decide_metrics, decide_metrics, hnumber, hresult]
  exact rel_map (fun _ _ hm => hm.requested _ _) h.metrics

theorem perform (h : Twins g g') (c : Call) :
    (g.perform c).1 = (g'.perform c).1 ∧ Twins (g.perform c).2 (g'.perform c).2 := by
  rcases hclient : c.client? with _ | key
  · exact bisimulation.perform h hclient
  · obtain ⟨rules, r, answer, -, hperform⟩ := perform_request hclient g
    obtain ⟨hresult, hafter⟩ := h.decide rules r
    rw [hperform g rfl, hperform g' h.active, hresult]
    exact ⟨rfl, hafter⟩

theorem run : ∀ (calls : List Call) {g g' : Gate}, Twins g g' →
    (g.run calls).1 = (g'.run calls).1 ∧ Twins (g.run calls).2 (g'.run calls).2
  | [], _, _, h => ⟨rfl, h⟩
  | c :: calls, _, _, h => by
    obtain ⟨hreply, hafter⟩ := h.perform c
    obtain ⟨hreplies, hend⟩ := run calls hafter
    rw [run_cons, run_cons, hreply, hreplies]
    exact ⟨rfl, hend⟩

end Twins

/-- **Decisions about two clients, in either order**: each gets the result that it would get alone,
and the tables have the same entries. -/
theorem decide_swap (g : Gate) (rules₁ rules₂ : List Rule) {r₁ r₂ : Request}
    (hr : r₁.address.canonical ≠ r₂.address.canonical) :
    ((g.decide rules₂ r₂).2.decide rules₁ r₁).1 = (g.decide rules₁ r₁).1 ∧
    ((g.decide rules₁ r₁).2.decide rules₂ r₂).1 = (g.decide rules₂ r₂).1 ∧
    Twins ((g.decide rules₁ r₁).2.decide rules₂ r₂).2
      ((g.decide rules₂ r₂).2.decide rules₁ r₁).2 := by
  -- each request finds its own entry as if the other had not come
  have first : Alike (· ≠ r₂.address.canonical) (g.decide rules₂ r₂).2 g :=
    g.decide_unseen rules₂ fun h => h rfl
  have second : Alike (· ≠ r₁.address.canonical) (g.decide rules₁ r₁).2 g :=
    g.decide_unseen rules₁ fun h => h rfl
  obtain ⟨hnumber₁, hresult₁, hafter₁⟩ := first.decide rules₁ hr
  obtain ⟨hnumber₂, hresult₂, hafter₂⟩ := second.decide rules₂ hr.symm
  have hleft : Alike (· ≠ r₂.address.canonical) ((g.decide rules₁ r₁).2.decide rules₂ r₂).2
      ((g.decide rules₂ r₂).2.decide rules₁ r₁).2 :=
    (decide_unseen _ rules₂ fun h => h rfl).trans hafter₁.symm
  have hright : Alike (· ≠ r₁.address.canonical) ((g.decide rules₁ r₁).2.decide rules₂ r₂).2
      ((g.decide rules₂ r₂).2.decide rules₁ r₁).2 :=
    hafter₂.trans (decide_unseen _ rules₁ fun h => h rfl).symm
  refine ⟨hresult₁, hresult₂,
    ⟨hleft.1, hleft.2, hleft.3, hleft.4, hleft.5, hleft.6, ?_⟩, ?_⟩
  · intro key _
    by_cases hk : key = r₂.address.canonical
    · exact hright.entries key fun h => hr (h.symm.trans hk)
    · exact hleft.entries key hk
  · rw [decide_metrics, decide_metrics, decide_metrics, decide_metrics, hnumber₁, hresult₁,
      hnumber₂, hresult₂]
    cases g.metrics with
    | none => exact .none
    | some m => exact .some (m.requested_comm _ _ _ _)

theorem perform_swap (g : Gate) {c₁ c₂ : Call} {key₁ key₂ : Address}
    (h₁ : c₁.client? = some key₁) (h₂ : c₂.client? = some key₂) (hkeys : key₁ ≠ key₂) :
    ((g.perform c₂).2.perform c₁).1 = (g.perform c₁).1 ∧
    ((g.perform c₁).2.perform c₂).1 = (g.perform c₂).1 ∧
    Twins ((g.perform c₁).2.perform c₂).2 ((g.perform c₂).2.perform c₁).2 := by
  obtain ⟨rules₁, r₁, answer₁, hr₁, hperform₁⟩ := perform_request h₁ g
  obtain ⟨rules₂, r₂, answer₂, hr₂, hperform₂⟩ := perform_request h₂ g
  have hr : r₁.address.canonical ≠ r₂.address.canonical := by
    rw [hr₁, hr₂]
    exact hkeys
  have hactive₁ : g.active = (g.decide rules₂ r₂).2.active :=
    (congrArg active (g.decides rules₂ r₂).rest.symm :)
  have hactive₂ : g.active = (g.decide rules₁ r₁).2.active :=
    (congrArg active (g.decides rules₁ r₁).rest.symm :)
  obtain ⟨hresult₁, hresult₂, htwins⟩ := g.decide_swap rules₁ rules₂ hr
  rw [hperform₁ g rfl, hperform₂ g rfl, hperform₁ _ hactive₁, hperform₂ _ hactive₂, hresult₁,
    hresult₂]
  exact ⟨rfl, rfl, htwins⟩

end Gate

/-! ## 5. Isolation -/

/-- **Clients are isolated.**  In any run of a gate, a client hears what it hears in the run without
the requests of all others, and at every point it has the same tally in both.  Requests of two
clients that follow each other may change places: each is answered as before, so are all calls
before and behind them, and in the end every tally and every metric is the same.  A mapped address
and the address that it maps are one client. -/
theorem clients_isolated :
    (∀ (g : Gate) (calls : List Call) (a : Address),
      heard a.canonical calls (g.run calls).1 =
        (g.run (calls.filter (·.concerns a.canonical))).1 ∧
      ∀ before : List Call, before <+: calls →
        (g.run before).2.table.tally? a =
          (g.run (before.filter (·.concerns a.canonical))).2.table.tally? a) ∧
    (∀ (g : Gate) (before after : List Call) (c₁ c₂ : Call) (key₁ key₂ : Address),
      c₁.client? = some key₁ → c₂.client? = some key₂ → key₁ ≠ key₂ →
      ∃ (replies₀ replies₁ : List Reply) (reply₁ reply₂ : Reply),
        replies₀.length = before.length ∧
        (g.run (before ++ c₁ :: c₂ :: after)).1 =
          replies₀ ++ reply₁ :: reply₂ :: replies₁ ∧
        (g.run (before ++ c₂ :: c₁ :: after)).1 =
          replies₀ ++ reply₂ :: reply₁ :: replies₁ ∧
        Gate.Twins (g.run (before ++ c₁ :: c₂ :: after)).2
          (g.run (before ++ c₂ :: c₁ :: after)).2) ∧
    (∀ q : BitVec 32, (Address.v6 (Address.mapped q)).canonical = (Address.v4 q).canonical) := by
  refine ⟨?_, ?_, ?_⟩
  · intro g calls a
    refine ⟨(Gate.run_concerns a.canonical calls g g (.refl g)).1, ?_⟩
    intro before _
    exact (Gate.run_concerns a.canonical before g g (.refl g)).2.entries a.canonical rfl
  · intro g before after c₁ c₂ key₁ key₂ h₁ h₂ hkeys
    obtain ⟨hreply₁, hreply₂, htwins⟩ := (g.run before).2.perform_swap h₁ h₂ hkeys
    obtain ⟨hreplies, hend⟩ := htwins.run after
    refine ⟨(g.run before).1, (((g.run before).2.perform c₁).2.perform c₂).2.run after |>.1,
      ((g.run before).2.perform c₁).1, ((g.run before).2.perform c₂).1, g.run_length before,
      ?_, ?_, ?_⟩
    · rw [Gate.run_append, Gate.run_cons, Gate.run_cons, hreply₂]
    · rw [Gate.run_append, Gate.run_cons, Gate.run_cons, hreply₁, hreplies]
    · rw [Gate.run_append, Gate.run_append]
      exact hend
  · intro q
    simp only [Address.canonical, Address.mapped?_mapped]

/-- A request under a rule about more than one hit. -/
def visit (a : Address) : Call :=
  .decide [⟨1, .hitsAbove 1, "reject"⟩] (.ofAddress a)

/-- `10.0.0.1` comes twice, the second time by its mapped form.  It hears the same whether or not
`10.0.0.2` comes in between, who might as well have come first. -/
theorem clients_isolated_neighbours :
    heard (.v4 0x0A000001#32)
        [visit (.v4 0x0A000001#32), visit (.v4 0x0A000002#32),
          visit (.v6 (Address.mapped 0x0A000001#32))]
        (Gate.run {} [visit (.v4 0x0A000001#32), visit (.v4 0x0A000002#32),
          visit (.v6 (Address.mapped 0x0A000001#32))]).1 =
      [.decision (.ok (Decision.mk "accept" none)),
        .decision (.ok (Decision.mk "reject" (some 1)))] ∧
    Gate.Twins
      (Gate.run {} [visit (.v4 0x0A000001#32), visit (.v4 0x0A000002#32),
        visit (.v6 (Address.mapped 0x0A000001#32))]).2
      (Gate.run {} [visit (.v4 0x0A000002#32), visit (.v4 0x0A000001#32),
        visit (.v6 (Address.mapped 0x0A000001#32))]).2 := by
  constructor
  · exact (clients_isolated.1 {} _ (.v4 0x0A000001#32)).1
  · obtain ⟨_, _, _, _, -, -, -, htwins⟩ := clients_isolated.2.1 {} []
      [visit (.v6 (Address.mapped 0x0A000001#32))] (visit (.v4 0x0A000001#32))
      (visit (.v4 0x0A000002#32)) _ _ rfl rfl (by decide)
    exact htwins

end Turnstile
