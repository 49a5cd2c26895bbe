/-
# Decisions are first-match decisions

What a gate decides is compared with a reference that is written without it.  `FirstMatch` says by
three rules what a list of rules decides for given facts: the first rule that does not plainly fail
to hold decides, by its action or by its error, and the default action if there is no such rule.
`Ledger.decide` is the reference with its memory: it counts the hit, decides, and counts the match
if a rule was named.

**The order of effects is what makes the two agree.**  The hit is counted before the rules are
tried, so they see it; the match is counted on one of three ways out; and both go to the entry of
the canonical address, so all other entries stay (`Gate.Decides`).

**Room in the counters carries over a run.**  One call makes at most one hit and one match more, so
a run of fewer than `2 ^ 64 - 1` calls from a fresh table never fills a counter, and by induction
each reply and the table behind it are those of the reference (`run_refines`).
-/
import Turnstile.Proofs.Decision.Ledger
import Turnstile.Proofs.Decision.Run
import Turnstile.Proofs.Evaluation.Tree

namespace Turnstile

open Gate (Decision)

/-! ## 1. The first rule that decides -/

/-- Whether a rule holds for given facts. -/
def Rule.value (rule : Rule) (facts : Facts) : Except FamilyMismatch Bool :=
  (evaluate facts rule.predicate).outcome

/-- **What a list of rules decides.**  The rules behind the deciding one are any. -/
inductive FirstMatch (default : String) (facts : Facts) :
    List Rule → Except EvaluationError Decision → Prop
  | holds {before after : List Rule} {rule : Rule} :
      (∀ earlier ∈ before, earlier.value facts = .ok false) →
      rule.value facts = .ok true →
      FirstMatch default facts (before ++ rule :: after) (.ok ⟨rule.action, some rule.id⟩)
  | fails {before after : List Rule} {rule : Rule} {mismatch : FamilyMismatch} :
      (∀ earlier ∈ before, earlier.value facts = .ok false) →
      rule.value facts = .error mismatch →
      FirstMatch default facts (before ++ rule :: after) (.error ⟨rule.id, mismatch⟩)
  | default {rules : List Rule} :
      (∀ rule ∈ rules, rule.value facts = .ok false) →
      FirstMatch default facts rules (.ok ⟨default, none⟩)

namespace FirstMatch

variable {default : String} {facts : Facts} {rules : List Rule}
  {result : Except EvaluationError Decision}

/-- A rule that does not hold may stand in front: the first match is still the first, and all rules
before it still fail to hold. -/
theorem cons {rule : Rule} (h : rule.value facts = .ok false)
    (hm : FirstMatch default facts rules result) :
    FirstMatch default facts (rule :: rules) result := by
  have front : ∀ {before : List Rule}, (∀ earlier ∈ before, earlier.value facts = .ok false) →
      ∀ earlier ∈ rule :: before, earlier.value facts = .ok false := by
    intro before hbefore earlier he
    rcases List.mem_cons.1 he with rfl | he
    · exact h
    · exact hbefore earlier he
  cases hm with
  | holds hbefore hrule => exact .holds (front hbefore) hrule
  | fails hbefore hrule => exact .fails (front hbefore) hrule
  | default hall => exact .default (front hall)

end FirstMatch

/-- What a rule decides; nothing if it does not hold. -/
def Rule.verdict? (facts : Facts) (rule : Rule) : Option (Except EvaluationError Decision) :=
  match rule.value facts with
  | .ok false => none
  | .ok true => some (.ok ⟨rule.action, some rule.id⟩)
  | .error mismatch => some (.error ⟨rule.id, mismatch⟩)

/-- The first decision of a rule, or else the default action. -/
def verdict (default : String) (facts : Facts) (rules : List Rule) :
    Except EvaluationError Decision :=
  (rules.findSome? (Rule.verdict? facts)).getD (.ok ⟨default, none⟩)

/-- The decision by what was found. -/
def Gate.Decision.of (default : String) : Option Rule → Decision
  | some rule => ⟨rule.action, some rule.id⟩
  | none => ⟨default, none⟩

theorem firstMatch_cons_false {facts : Facts} {rule : Rule} (h : rule.value facts = .ok false)
    (rules : List Rule) :
    (firstMatch facts (rule :: rules)).outcome = (firstMatch facts rules).outcome := by
  rw [Rule.value] at h
  simp only [firstMatch, h]

theorem firstMatch_cons_true {facts : Facts} {rule : Rule} (h : rule.value facts = .ok true)
    (rules : List Rule) : (firstMatch facts (rule :: rules)).outcome = .ok (some rule) := by
  rw [Rule.value] at h
  simp only [firstMatch, h]

theorem firstMatch_cons_error {facts : Facts} {rule : Rule} {mismatch : FamilyMismatch}
    (h : rule.value facts = .error mismatch) (rules : List Rule) :
    (firstMatch facts (rule :: rules)).outcome = .error ⟨rule.id, mismatch⟩ := by
  rw [Rule.value] at h
  simp only [firstMatch, h]

theorem verdict_eq (default : String) (facts : Facts) : ∀ rules : List Rule,
    verdict default facts rules = (firstMatch facts rules).outcome.map (Decision.of default)
  | [] => rfl
  | rule :: rules => by
    have ih := verdict_eq default facts rules
    unfold verdict at ih ⊢
    rcases hv : rule.value facts with mismatch | (_ | _)
    · rw [firstMatch_cons_error hv]
      simp only [List.findSome?_cons, Rule.verdict?, hv]
      rfl
    · rw [firstMatch_cons_false hv, ← ih]
      simp only [List.findSome?_cons, Rule.verdict?, hv]
    · rw [firstMatch_cons_true hv]
      simp only [List.findSome?_cons, Rule.verdict?, hv]
      rfl

/-- Rules that do not hold are passed over, and leave nothing behind but what was read. -/
theorem firstMatch_append {facts : Facts} : ∀ {before : List Rule},
    (∀ earlier ∈ before, earlier.value facts = .ok false) → ∀ rules : List Rule,
    (firstMatch facts (before ++ rules)).outcome = (firstMatch facts rules).outcome
  | [], _, _ => rfl
  | rule :: before, h, rules => by
    rw [List.cons_append, firstMatch_cons_false (h rule (by simp)),
      firstMatch_append fun earlier he => h earlier (by simp [he])]

/-- **The search decides what the rules say, and nothing else is decided by them.**  The relation
knows of no search, so this is what the search is right by. -/
theorem firstMatch_iff (default : String) (facts : Facts) (rules : List Rule)
    (result : Except EvaluationError Decision) :
    FirstMatch default facts rules result ↔ verdict default facts rules = result := by
  constructor
  · intro h
    rw [verdict_eq]
    cases h with
    | holds hbefore hrule =>
      rw [firstMatch_append hbefore, firstMatch_cons_true hrule]
      rfl
    | fails hbefore hrule =>
      rw [firstMatch_append hbefore, firstMatch_cons_error hrule]
      rfl
    | default hall =>
      rw [← List.append_nil rules, firstMatch_append hall]
      rfl
  · rintro rfl
    induction rules with
    | nil => exact .default (by simp)
    | cons rule rules ih =>
      have hnil : ∀ earlier ∈ ([] : List Rule), earlier.value facts = .ok false := by simp
      rw [verdict_eq] at ih ⊢
      rcases hv : rule.value facts with mismatch | (_ | _)
      · rw [firstMatch_cons_error hv]
        exact .fails hnil hv
      · rw [firstMatch_cons_false hv]
        exact ih.cons hv
      · rw [firstMatch_cons_true hv]
        exact .holds hnil hv

/-- A rule that decides hides the rules behind it, be it by an action or by an error. -/
theorem firstMatch_behind {facts : Facts} {rule : Rule} (h : rule.value facts ≠ .ok false)
    (before after after' : List Rule) :
    (firstMatch facts (before ++ rule :: after)).outcome =
      (firstMatch facts (before ++ rule :: after')).outcome := by
  rw [firstMatch_stops h after before, firstMatch_stops h after' before]

/-! ## 2. One decision -/

/-- The rule that a result names. -/
def namedRule : Except EvaluationError Decision → Option RuleId
  | .ok decision => decision.rule
  | .error _ => none

/-- What a result leaves of a client's tally, at a given time. -/
def Tally.decided (t : Tally) (clock : Nat) (result : Except EvaluationError Decision) : Tally :=
  match namedRule result with
  | some rule => (t.hit clock).ruled rule
  | none => t.hit clock

namespace HitTable

/-- Counts a match if a rule is named. -/
def recordNamed (t : HitTable) (a : Address) : Option RuleId → HitTable
  | some rule => t.recordMatch a rule
  | none => t

end HitTable

namespace Gate

variable (g : Gate) (rules : List Rule) (r : Request)

/-- The facts that the rules are tried with: the hit is counted already. -/
def facts : Facts :=
  .ofRequest r (g.table.recordHit r.address).1 g.lists

/-- A decision in one piece: the result, the table and what else there is.  Only the table and the
metrics are new. -/
theorem decide_eq : ∃ metrics, g.decide rules r =
    (verdict g.defaultAction (g.facts r) rules,
      { g with
        table := (g.table.recordHit r.address).2.recordNamed r.address
          (namedRule (verdict g.defaultAction (g.facts r) rules))
        metrics }) := by
  rw [verdict_eq, facts]
  rcases hf : (firstMatch (.ofRequest r (g.table.recordHit r.address).1 g.lists) rules).outcome with
    e | _ | rule
  · simp only [decide, hf]
    exact ⟨_, rfl⟩
  all_goals
    simp only [decide, hf]
    -- the gauge of clients is a metric, so both ways lead to the same table
    split
    · exact ⟨_, rfl⟩
    · exact ⟨_, rfl⟩

theorem decide_fst : (g.decide rules r).1 = verdict g.defaultAction (g.facts r) rules := by
  obtain ⟨metrics, h⟩ := decide_eq g rules r
  rw [h]

theorem decide_table : (g.decide rules r).2.table =
    (g.table.recordHit r.address).2.recordNamed r.address (namedRule (g.decide rules r).1) := by
  obtain ⟨metrics, h⟩ := decide_eq g rules r
  rw [h]

/-- Rules are looked at for the first that decides, and for nothing else: lists with one outcome are
as good as each other. -/
theorem decide_congr {g : Gate} {rules rules' : List Rule} {r : Request}
    (h : (firstMatch (g.facts r) rules).outcome = (firstMatch (g.facts r) rules').outcome) :
    g.decide rules r = g.decide rules' r := by
  unfold facts at h
  simp only [decide, h]

theorem decide_clock : (g.decide rules r).2.table.clock = g.table.clock := by
  rw [decide_table, HitTable.recordHit_eq]
  cases namedRule (g.decide rules r).1 with
  | none => rfl
  | some rule =>
    rw [HitTable.recordNamed, HitTable.recordMatch_eq]
    rfl

/-- **What a decision does.**  `action` does the same; the tally of the client is the given one
afterwards, and all other tallies are as before.  Beside the table only metrics change. -/
structure Decides (result : Except EvaluationError Decision) (tally : Tally) : Prop where
  decision : (g.decide rules r).1 = result
  action : g.action rules r = (result.map Decision.action, (g.decide rules r).2)
  tallies (b : Address) : (g.decide rules r).2.table.tally? b =
    if b.canonical = r.address.canonical then some tally else g.table.tally? b
  clock : (g.decide rules r).2.table.clock = g.table.clock
  rest : (g.decide rules r).2 =
    { g with table := (g.decide rules r).2.table, metrics := (g.decide rules r).2.metrics }

/-- A decision in the table: the entry of the client is made or changed, and no other.  Hit and
match are two changes of one entry, and here they are one. -/
theorem decide_get? (k : Address) : (g.decide rules r).2.table.tallies.get? k =
    if k = r.address.canonical then
      some ((g.table.tally r.address).decided g.table.clock (g.decide rules r).1)
    else g.table.tallies.get? k := by
  rw [decide_table, Tally.decided, HitTable.recordHit_eq]
  cases namedRule (g.decide rules r).1 with
  | none => exact HitTable.get?_change _ _ _ _
  | some rule =>
    rw [HitTable.recordNamed, HitTable.recordMatch_eq, HitTable.get?_change]
    by_cases h : k = r.address.canonical
    · simp only [HitTable.tally, HitTable.tally?_change, if_pos h, if_true, Option.getD_some]
    · simp only [HitTable.get?_change, if_neg h]

theorem decides : g.Decides rules r (g.decide rules r).1
    ((g.table.tally r.address).decided g.table.clock (g.decide rules r).1) := by
  refine ⟨rfl, rfl, ?_, decide_clock g rules r, ?_⟩
  · intro b
    exact g.decide_get? rules r b.canonical
  · obtain ⟨metrics, h⟩ := decide_eq g rules r
    rw [h]

end Gate

/-! ## 3. The reference -/

namespace Ledger

/-- Counts a match if a rule is named. -/
def recordNamed (L : Ledger) (a : Address) : Option RuleId → Ledger
  | some rule => L.recordMatch a rule
  | none => L

/-- **The reference decision.**  The hit is counted, the first rule decides with that count, and the
match is counted if a rule was named. -/
def decide (L : Ledger) (default : String) (lists : AccessLists) (rules : List Rule)
    (r : Request) : Except EvaluationError Decision × Ledger :=
  let hits := (L.client r.address).hits + 1
  let result := verdict default (.ofRequest r (.ofNat hits) lists) rules
  (result, (L.recordHit r.address).recordNamed r.address (namedRule result))

/-- Answers one call of a script. -/
def perform (L : Ledger) (default : String) (lists : AccessLists) : Call → Reply × Ledger
  | .decide rules r =>
    (.decision (L.decide default lists rules r).1, (L.decide default lists rules r).2)
  | .action rules r =>
    (.action ((L.decide default lists rules r).1.map Decision.action),
      (L.decide default lists rules r).2)
  | .sweep idle => (.done, L.sweep idle)
  | .sweepOnTime idle => (.done, L.sweep idle)
  | .elapse millis => (.done, L.elapse millis)
  | _ => (.done, L)

/-- Answers a script. -/
def run (L : Ledger) (default : String) (lists : AccessLists) : List Call → List Reply × Ledger
  | [] => ([], L)
  | c :: cs =>
    let (reply, L) := L.perform default lists c
    let (replies, L) := L.run default lists cs
    (reply :: replies, L)

end Ledger

/-! ## 4. Runs -/

namespace HitTable

variable {h m : Nat} {t : HitTable}

theorem Bounded.named (hb : Bounded h m t) (a : Address) (rule? : Option RuleId) :
    Bounded h (m + 1) (t.recordNamed a rule?) := by
  cases rule? with
  | none => exact hb.mono (Nat.le_refl _) (Nat.le_succ _)
  | some rule => exact hb.matched a rule

theorem ledger_recordNamed (hb : Bounded h m t) (hm : m + 1 < UInt64.size) (a : Address)
    (rule? : Option RuleId) :
    (t.recordNamed a rule?).ledger = t.ledger.recordNamed a rule? := by
  cases rule? with
  | none => rfl
  | some rule =>
    have hmatched := (hb.tally a).2
    exact ledger_recordMatch (by omega) rule

end HitTable

namespace Gate

open HitTable (Bounded)

variable {g : Gate} {h m : Nat}

theorem decide_bounded (hb : Bounded h m g.table) (rules : List Rule) (r : Request) :
    Bounded (h + 1) (m + 1) (g.decide rules r).2.table := by
  rw [decide_table]
  exact (hb.hit r.address).named r.address _

/-- **One decision is one decision of the reference**, which counts with plain numbers and keeps
clients in a function.  The bounds say that no counter wraps. -/
theorem decide_refines (hb : Bounded h m g.table) (hh : h + 1 < UInt64.size)
    (hm : m + 1 < UInt64.size) (rules : List Rule) (r : Request) :
    g.table.ledger.decide g.defaultAction g.lists rules r =
      ((g.decide rules r).1, (g.decide rules r).2.table.ledger) := by
  have hroom := (hb.room hh hm r.address).1
  have hfacts : g.facts r =
      .ofRequest r (.ofNat ((g.table.ledger.client r.address).hits + 1)) g.lists := by
    rw [facts, HitTable.recordHit_fst hroom]
  rw [decide_table, decide_fst, HitTable.ledger_recordNamed (hb.hit r.address) hm,
    HitTable.ledger_recordHit hroom, hfacts]
  rfl

/-- What one call is to a reference: the same reply and the same ledger, at most one hit and one
match more, and the same grounds for later decisions. -/
structure Step (g g' : Gate) (h m : Nat) (reference : Reply × Ledger) (reply : Reply) : Prop where
  reply : reference.1 = reply
  ledger : reference.2 = g'.table.ledger
  bounded : Bounded (h + 1) (m + 1) g'.table
  defaultAction : g'.defaultAction = g.defaultAction
  lists : g'.lists = g.lists

theorem Step.of_agrees {g' : Gate} (hb : Bounded h m g.table) (ha : g'.Agrees g) :
    Step g g' h m (.done, g.table.ledger) .done where
  reply := rfl
  ledger := by rw [ha.table]
  bounded := by
    rw [ha.table]
    exact hb.mono (Nat.le_succ _) (Nat.le_succ _)
  defaultAction := ha.defaultAction
  lists := ha.lists

theorem Step.of_table {t : HitTable} {L : Ledger} (hL : t.ledger = L) (hb : Bounded h m t)
    {metrics : Option Metrics} :
    Step g { g with table := t, metrics } h m (.done, L) .done where
  reply := rfl
  ledger := hL.symm
  bounded := hb.mono (Nat.le_succ _) (Nat.le_succ _)
  defaultAction := rfl
  lists := rfl

theorem perform_refines (hb : Bounded h m g.table) (hh : h + 1 < UInt64.size)
    (hm : m + 1 < UInt64.size) (c : Call) :
    Step g (g.perform c).2 h m
      (g.table.ledger.perform g.defaultAction g.lists (g.given c)) (g.perform c).1 := by
  have decided : ∀ rules r,
      Step g (g.decide rules r).2 h m
        (g.table.ledger.perform g.defaultAction g.lists (.decide rules r))
        (.decision (g.decide rules r).1) := by
    intro rules r
    have hstep := decide_refines hb hh hm rules r
    have hrest := (g.decides rules r).rest
    refine ⟨?_, ?_, decide_bounded hb rules r, ?_, ?_⟩
    · simp only [Ledger.perform, hstep]
    · simp only [Ledger.perform, hstep]
    · rw [hrest]
    · rw [hrest]
  cases c with
  | decide rules r => exact decided rules r
  | serve r => exact decided g.active.rules r
  | action rules r =>
    obtain ⟨-, hledger, hbound, hdefault, hlists⟩ := decided rules r
    refine ⟨?_, hledger, hbound, hdefault, hlists⟩
    simp only [given, Ledger.perform, decide_refines hb hh hm rules r]
    rfl
  | newRule id text => exact .of_agrees hb (newRule_agrees g id text)
  | compile configs => exact .of_agrees hb (compile_agrees g configs)
  | reload configs => exact .of_agrees hb (reload_agrees g configs)
  | store rules => exact .of_agrees hb ⟨rfl, rfl, rfl⟩
  | sweep idle => exact .of_table (HitTable.ledger_sweep g.table idle) (hb.sweep idle)
  | sweepOnTime idle => exact .of_table (HitTable.ledger_sweep g.table idle) (hb.sweep idle)
  | elapse millis => exact .of_table (HitTable.ledger_elapse g.table millis) hb

/-- **A run answers as the reference answers its script.**  The counters have room for one call more
at each call, since each call adds at most one to the bounds. -/
theorem run_refines : ∀ (calls : List Call) (g : Gate) (h m : Nat), Bounded h m g.table →
    h + calls.length < UInt64.size → m + calls.length < UInt64.size →
    g.table.ledger.run g.defaultAction g.lists (g.script calls) =
      ((g.run calls).1, (g.run calls).2.table.ledger)
  | [], _, _, _, _, _, _ => rfl
  | c :: cs, g, h, m, hb, hh, hm => by
    rw [List.length_cons] at hh hm
    obtain ⟨hreply, hledger, hbound, hdefault, hlists⟩ :=
      perform_refines hb (by omega) (by omega) c
    have ih := run_refines cs (g.perform c).2 (h + 1) (m + 1) hbound (by omega) (by omega)
    rw [hdefault, hlists, ← hledger] at ih
    simp only [script, Ledger.run, run, ih, hreply]

end Gate

/-! ## 5. Every decision, every run -/

/-- What a result leaves of a tally, field by field, if there is room in the counters: a hit in any
case, and a match if a rule is named. -/
theorem Tally.decided_fields {t : Tally} (hh : t.hits.toNat + 1 < UInt64.size)
    (hm : t.matched.toNat + 1 < UInt64.size) (clock : Nat)
    (result : Except EvaluationError Decision) :
    (t.decided clock result).hits = t.ordinal ∧
    (t.decided clock result).lastHit = max t.lastHit clock ∧
    (∀ rule, namedRule result = some rule →
      (t.decided clock result).matched.toNat = t.matched.toNat + 1 ∧
      (t.decided clock result).lastRule = some rule) ∧
    (namedRule result = none →
      (t.decided clock result).matched = t.matched ∧
      (t.decided clock result).lastRule = t.lastRule) := by
  rw [ordinal_eq hh]
  unfold decided
  cases namedRule result with
  | none =>
    refine ⟨rfl, rfl, ?_, fun _ => ⟨rfl, rfl⟩⟩
    intro rule h
    cases h
  | some rule =>
    refine ⟨rfl, rfl, ?_, ?_⟩
    · rintro _ ⟨⟩
      exact ⟨toNat_add_one hm, lastRule_ruled rule _⟩
    · intro h
      cases h

/-- **Every decision is the first-match decision, with its effects and no others.**  With the table
anywhere within `2 ^ 64 - 1` hits and matches: the hit gets the next number `n`; the first rule in
order that is not plainly false at `n` decides, by its action or its error, and the default action
if there is none, and there is one such result; `n` becomes the client's hit count, and its match
counter and last rule change only with a rule that is named; all else but the metrics stays; rules
behind the deciding one make no difference.  So a run of any calls, with rule sets changing on the
way, answers as the reference does. -/
theorem decide_first_match :
    (∀ (g : Gate) (h m : Nat), HitTable.Reached h m g.table →
      h + 1 < UInt64.size → m + 1 < UInt64.size → ∀ (rules : List Rule) (r : Request),
      ∃ (n : UInt64) (result : Except EvaluationError Decision) (tally : Tally),
        n.toNat = (g.table.tally r.address).hits.toNat + 1 ∧
        FirstMatch g.defaultAction (.ofRequest r n g.lists) rules result ∧
        g.Decides rules r result tally ∧
        tally.hits = n ∧
        tally.lastHit = max (g.table.tally r.address).lastHit g.table.clock ∧
        (∀ rule, namedRule result = some rule →
          tally.matched.toNat = (g.table.tally r.address).matched.toNat + 1 ∧
          tally.lastRule = some rule) ∧
        (namedRule result = none →
          tally.matched = (g.table.tally r.address).matched ∧
          tally.lastRule = (g.table.tally r.address).lastRule) ∧
        ∀ (before after after' : List Rule) (rule : Rule),
          rule.value (.ofRequest r n g.lists) ≠ .ok false →
          g.decide (before ++ rule :: after) r = g.decide (before ++ rule :: after') r) ∧
    (∀ (default : String) (facts : Facts) (rules : List Rule),
      ∃ result, FirstMatch default facts rules result ∧
        ∀ other, FirstMatch default facts rules other → other = result) ∧
    (∀ (g : Gate) (h m : Nat), HitTable.Reached h m g.table → ∀ calls : List Call,
      h + calls.length < UInt64.size → m + calls.length < UInt64.size →
      (g.run calls).1 =
        (g.table.ledger.run g.defaultAction g.lists (g.script calls)).1 ∧
      (g.run calls).2.table.ledger =
        (g.table.ledger.run g.defaultAction g.lists (g.script calls)).2) := by
  refine ⟨?_, ?_, ?_⟩
  · intro g h m hr hh hm rules r
    obtain ⟨hroom, hmatched⟩ := hr.bounded.room hh hm r.address
    have hn : (g.table.recordHit r.address).1 = (g.table.tally r.address).ordinal := by
      rw [HitTable.recordHit_eq]
    obtain ⟨h₁, h₂, h₃, h₄⟩ := Tally.decided_fields hroom hmatched g.table.clock
      (g.decide rules r).1
    refine ⟨(g.table.recordHit r.address).1, _, _, ?_, ?_, g.decides rules r, ?_, h₂, h₃, h₄, ?_⟩
    · rw [hn, Tally.ordinal_eq hroom, Tally.toNat_add_one hroom]
    · exact (firstMatch_iff _ _ _ _).2 (Gate.decide_fst g rules r).symm
    · rw [hn]
      exact h₁
    · intro before after after' rule hrule
      exact Gate.decide_congr (firstMatch_behind hrule before after after')
  · intro default facts rules
    refine ⟨verdict default facts rules, (firstMatch_iff _ _ _ _).2 rfl, ?_⟩
    intro other hother
    exact ((firstMatch_iff _ _ _ _).1 hother).symm
  · intro g h m hr calls hh hm
    rw [Gate.run_refines calls g h m hr.bounded hh hm]
    exact ⟨rfl, rfl⟩

/-- A client that has come once is asked about again.  The first rule names a list that does not
take it, the second one sees its second hit, and the third one is not looked at, though it would
fail. -/
theorem decide_first_match_again :
    ∃ g : Gate, HitTable.Reached 1 0 g.table ∧
      ∃ (result : Except EvaluationError Gate.Decision) (tally : Tally),
        FirstMatch g.defaultAction (.ofRequest (.ofAddress (.v4 0x0A000001#32)) 2 g.lists)
          [⟨1, .addressListed "office", "accept"⟩, ⟨2, .hitsAbove 1, "reject"⟩,
            ⟨3, .addressIs (.v6 1), "accept"⟩] result ∧
        result = .ok ⟨"reject", some 2⟩ ∧
        tally.hits = 2 ∧ tally.matched.toNat = 1 ∧ tally.lastRule = some 2 := by
  let g : Gate := { table := (HitTable.empty.recordHit (.v4 0x0A000001#32)).2 }
  have hreached : HitTable.Reached 1 0 g.table := .hit _ .empty
  obtain ⟨n, result, tally, hn, hfirst, hdecides, hhits, -, hnamed, -⟩ :=
    decide_first_match.1 g 1 0 hreached (by decide) (by decide)
      [⟨1, .addressListed "office", "accept"⟩, ⟨2, .hitsAbove 1, "reject"⟩,
        ⟨3, .addressIs (.v6 1), "accept"⟩] (.ofAddress (.v4 0x0A000001#32))
  obtain rfl : n = 2 := UInt64.toNat_inj.1 hn
  have hresult : result = .ok ⟨"reject", some 2⟩ := hdecides.decision.symm
  obtain ⟨hmatched, hlast⟩ := hnamed 2 (by rw [hresult]; rfl)
  exact ⟨g, hreached, result, tally, hfirst, hresult, hhits, hmatched, hlast⟩

end Turnstile
