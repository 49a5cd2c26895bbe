/-
# Counters and what happened

A gate counts in four places: a request that is decided, one that fails, a rule that is read and
a text that is refused.  Here is what the counters say together, whatever the gate was asked, and
up to the wrapping of 64 bits.

**Counters are counts of a log.**  The log of a run holds the results of its decisions
(`Gate.results`) and what came of each attempt to make a rule, those in the midst of work on a
list included (`Gate.attempts`).  `Metrics.Counts` says for each counter what it counts; one
result more and one attempt more keep it (`Counts.requested`, `Counts.attempted`), so it holds
behind every run (`Counts.run`).  Sums over labels are counts as well, since adding one under a
label adds one to the sum (`Dictionary.total_bump`).

**Matches are counted twice.**  The tally of the client and the counter of the rule go up
together, so their sums stay equal until a sweep removes a tally (`Gate.run_matched`).
-/
import Mathlib
import Turnstile.Proofs.Decision.Gauge
import Turnstile.Proofs.Decision.History
import Turnstile.Proofs.Decision.Isolation

namespace Turnstile

open Gate (Decision)

/-! ## 1. Sums over a dictionary -/

namespace Dictionary

variable {κ α : Type}

/-- The sum of a number that each value has. -/
def sum (f : α → UInt64) (d : Dictionary κ α) : UInt64 :=
  (d.entries.map fun e => f e.2).sum

/-- The sum of the values. -/
def total (d : Dictionary κ UInt64) : UInt64 :=
  d.sum id

variable [DecidableEq κ]

/-- In place of a value comes another one, so the sum changes by the difference.  Counters wrap, and
sums of words do so alike. -/
theorem sum_replace (f : α → UInt64) (k : κ) (v old : α) (es : List (κ × α))
    (h : es.lookup k = some old) :
    ((replace k v es).map fun e => f e.2).sum + f old = (es.map fun e => f e.2).sum + f v := by
  induction es with
  | nil => cases h
  | cons e es ih =>
    obtain ⟨i, w⟩ := e
    by_cases hi : i = k
    · subst hi
      rw [List.lookup_cons_self, Option.some.injEq] at h
      subst h
      simp only [replace, if_true, List.map_cons, List.sum_cons]
      grind
    · have hrest : es.lookup k = some old := by
        rwa [List.lookup_cons, beq_eq_false_iff_ne.2 (Ne.symm hi)] at h
      have ih := ih hrest
      simp only [replace, if_neg hi, List.map_cons, List.sum_cons]
      grind

/-- **A value that is set** goes into the sum, and the one that it replaces goes out.  A key without
a value counts as zero. -/
theorem sum_insert (f : α → UInt64) (d : Dictionary κ α) (k : κ) (v : α) :
    (d.insert k v).sum f + ((d.get? k).map f).getD 0 = d.sum f + f v := by
  unfold insert
  split
  · next h =>
    obtain ⟨old, hold⟩ := Option.isSome_iff_exists.1 h
    rw [hold]
    exact sum_replace f k v old d.entries hold
  · next h =>
    rw [Option.not_isSome_iff_eq_none.1 h]
    simp only [sum, List.map_append, List.map_cons, List.map_nil, List.sum_append, List.sum_cons,
      List.sum_nil, Option.map_none, Option.getD_none]
    grind

/-- **One more under a label is one more in all**, whether the label has been used before or not. -/
theorem total_bump (d : Dictionary κ UInt64) (k : κ) :
    (Metrics.bump d k).total = d.total + 1 := by
  have h := d.sum_insert id k ((d.get? k).getD 0 + 1)
  rw [Option.map_id_fun, id, id] at h
  change (Metrics.bump d k).total + _ = d.total + _ at h
  grind

theorem total_bumpNamed (d : Dictionary κ UInt64) (label : Option κ) :
    (Metrics.bumpNamed d label).total = d.total + .ofNat label.isSome.toNat := by
  cases label with
  | none => exact (UInt64.add_zero _).symm
  | some k => exact d.total_bump k

end Dictionary

/-! ## 2. The log of a run -/

/-- What came of an attempt to make a rule, and whether it got a parser. -/
structure Attempt where
  granted : Bool
  result : Except Error Rule

/-- What a reply tells of a decision: its action, or that there is none. -/
def Reply.label? : Reply → Option (Option String)
  | .decision (.ok made) => some (some made.action)
  | .action (.ok label) => some (some label)
  | .decision (.error _) | .action (.error _) => some none
  | .done => none

namespace Gate

variable (g : Gate)

/-- The result of the decision that a call asks for. -/
def result? (c : Call) : Option (Except EvaluationError Decision) :=
  match g.given c with
  | .decide rules r | .action rules r => some (g.decide rules r).1
  | _ => none

/-- The results of all decisions in a run. -/
def results (g : Gate) : List Call → List (Except EvaluationError Decision)
  | [] => []
  | c :: calls => (g.result? c).toList ++ results (g.perform c).2 calls

/-- An attempt to make a rule. -/
def attempt (id : RuleId) (text : String) : Attempt :=
  ⟨g.acquire.1.isOk, (g.newRule id text).1⟩

/-- The attempts to make rules behind those that have been compiled already. -/
def attemptsFrom (g : Gate) (done : List Rule) : List RuleSource → List Attempt
  | [] => []
  | c :: configs =>
    if done.any (·.id == c.id) then []
    else g.attempt c.id c.text :: match g.newRule c.id c.text with
      | (.error _, _) => []
      | (.ok rule, g) => match rule.missingList? g.lists with
        | some _ => []
        | none => attemptsFrom g (done ++ [rule]) configs

/-- The attempts to make rules in the course of a call. -/
def attemptsIn : Call → List Attempt
  | .newRule id text => [g.attempt id text]
  | .compile configs | .reload configs => g.attemptsFrom [] configs
  | _ => []

/-- The attempts to make rules in the course of a run. -/
def attempts (g : Gate) : List Call → List Attempt
  | [] => []
  | c :: calls => g.attemptsIn c ++ attempts (g.perform c).2 calls

/-- No sweep of a run removes an entry. -/
def Spares (g : Gate) : List Call → Prop
  | [] => True
  | c :: calls => Spares (g.perform c).2 calls ∧ match c with
    | .sweep idle | .sweepOnTime idle => (g.table.sweep idle).2.size = g.table.size
    | _ => True

/-- **What an attempt can come to.**  Without a parser no rule is made, and nothing is counted; with
one the text is read or refused, and one of the two counters goes up. -/
theorem attempt_cases (id : RuleId) (text : String) :
    ((g.attempt id text).granted = false ∧ (g.attempt id text).result.isOk = false ∧
      ∀ m : Metrics, m.attempted (g.attempt id text).result = m) ∨
    ((g.attempt id text).granted = true ∧
      ((∃ rule, (g.attempt id text).result = .ok rule) ∨
        ∃ e, (g.attempt id text).result = .error (.parse e))) := by
  unfold attempt newRule
  rcases hacquire : g.acquire with ⟨e | w, g'⟩
  · exact .inl ⟨rfl, rfl, g.acquire_error hacquire⟩
  · refine .inr ⟨rfl, ?_⟩
    dsimp only
    rcases w.parse id text with ⟨e | rule, w'⟩
    · exact .inr ⟨e, rfl⟩
    · exact .inl ⟨rule, rfl⟩

/-- There is one result for each request and none for any other call, so results can be counted by
calls. -/
theorem result?_isSome (c : Call) : (g.result? c).isSome = c.client?.isSome := by
  cases c <;> rfl

/-- A reply tells of the result of its decision, whichever of the three calls for a request it
answers. -/
theorem label?_perform (c : Call) :
    (g.perform c).1.label? = (g.result? c).map namedAction := by
  have told : ∀ result : Except EvaluationError Decision,
      (Reply.decision result).label? = some (namedAction result) ∧
      (Reply.action (result.map Decision.action)).label? = some (namedAction result) := by
    intro result
    cases result with
    | error e => exact ⟨rfl, rfl⟩
    | ok decision => exact ⟨rfl, rfl⟩
  cases c with
  | decide rules r => exact (told (g.decide rules r).1).1
  | action rules r => exact (told (g.decide rules r).1).2
  | serve r => exact (told (g.decide g.active.rules r).1).1
  | _ => rfl

theorem results_length : ∀ (g : Gate) (calls : List Call),
    (g.results calls).length = calls.countP fun c => c.client?.isSome
  | _, [] => rfl
  | g, c :: calls => by
    rw [results, List.length_append, results_length (g.perform c).2 calls, List.countP_cons,
      Option.length_toList, result?_isSome, Nat.add_comm]

theorem labels_run : ∀ (g : Gate) (calls : List Call),
    (g.run calls).1.filterMap Reply.label? = (g.results calls).map namedAction
  | _, [] => rfl
  | g, c :: calls => by
    have hrest := labels_run (g.perform c).2 calls
    have hreply := g.label?_perform c
    rw [run_cons, results, List.map_append, ← hrest]
    cases hresult : g.result? c with
    | none =>
      rw [hresult, Option.map_none] at hreply
      rw [List.filterMap_cons_none hreply]
      rfl
    | some result =>
      rw [hresult, Option.map_some] at hreply
      rw [List.filterMap_cons_some hreply]
      rfl

/-- The replies that give an action are as many as the results that name it.  So the counters can be
checked against what callers were told. -/
theorem countP_labels (calls : List Call) (action : String) :
    (g.run calls).1.countP (fun reply => reply.label? == some (some action)) =
      (g.results calls).countP fun result => namedAction result == some action := by
  calc (g.run calls).1.countP (fun reply => reply.label? == some (some action))
      = ((g.run calls).1.filterMap Reply.label?).countP (· == some action) := by
        rw [List.countP_filterMap]
        refine List.countP_congr fun reply _ => ?_
        cases reply.label? with
        | none => exact Iff.rfl
        | some label => simp
    _ = (g.results calls).countP fun result => namedAction result == some action := by
        rw [labels_run, List.countP_map]
        rfl

end Gate

/-! ## 3. Counters are counts -/

/-- **What each counter counts**, given the results and the attempts so far. -/
structure Metrics.Counts (m : Metrics) (results : List (Except EvaluationError Decision))
    (attempts : List Attempt) : Prop where
  evaluations : m.evaluations = .ofNat results.length
  evaluationErrors : m.evaluationErrors = .ofNat (results.countP fun result => !result.isOk)
  decisions (action : String) : (m.decisions.get? action).getD 0 =
    .ofNat (results.countP fun result => namedAction result == some action)
  decided : m.decisions.total = .ofNat (results.countP fun result => result.isOk)
  ruleMatches (rule : RuleId) : (m.ruleMatches.get? rule).getD 0 =
    .ofNat (results.countP fun result => namedRule result == some rule)
  matched : m.ruleMatches.total = .ofNat (results.countP fun result => (namedRule result).isSome)
  compiled : m.compiled = .ofNat (attempts.countP fun attempt => attempt.result.isOk)
  granted : m.compiled + m.refused = .ofNat (attempts.countP Attempt.granted)

namespace Metrics

theorem ofNat_countP_concat {α : Type} (p : α → Bool) (xs : List α) (x : α) :
    UInt64.ofNat ((xs ++ [x]).countP p) = .ofNat (xs.countP p) + .ofNat (p x).toNat := by
  rw [List.countP_append, List.countP_singleton, UInt64.ofNat_add]
  cases p x <;> rfl

/-- One more under a label is one more of it, and of no other; without a label nothing is
counted. -/
theorem getD_bumpNamed {κ : Type} [DecidableEq κ] (d : Dictionary κ UInt64) (label : Option κ)
    (k : κ) : ((bumpNamed d label).get? k).getD 0 =
      (d.get? k).getD 0 + .ofNat (label == some k).toNat := by
  rw [get?_bumpNamed]
  by_cases h : label = some k
  · rw [if_pos h, beq_iff_eq.2 h]
    rfl
  · rw [if_neg h, beq_eq_false_iff_ne.2 h]
    exact (UInt64.add_zero _).symm

namespace Counts

variable {m : Metrics} {results : List (Except EvaluationError Decision)}
  {attempts : List Attempt}

/-- Nothing has been counted yet, and nothing has happened yet: the start of every run. -/
theorem fresh : Counts {} [] [] := ⟨rfl, rfl, fun _ => rfl, rfl, fun _ => rfl, rfl, rfl, rfl⟩

/-- **One result more.**  Each counter goes up exactly if the result is of its kind, so all of them
still agree with the list. -/
theorem requested (h : m.Counts results attempts) (number : UInt64)
    (result : Except EvaluationError Decision) :
    (m.requested number result).Counts (results ++ [result]) attempts where
  evaluations := by
    rw [List.length_append, UInt64.ofNat_add, ← h.evaluations]
    rfl
  evaluationErrors := by
    rw [ofNat_countP_concat, ← h.evaluationErrors]
    cases result with
    | error e => rfl
    | ok decision => exact (UInt64.add_zero _).symm
  decisions action := by
    rw [ofNat_countP_concat, ← h.decisions action]
    exact getD_bumpNamed m.decisions _ action
  decided := by
    rw [ofNat_countP_concat, ← h.decided]
    refine (m.decisions.total_bumpNamed _).trans ?_
    cases result <;> rfl
  ruleMatches rule := by
    rw [ofNat_countP_concat, ← h.ruleMatches rule]
    exact getD_bumpNamed m.ruleMatches _ rule
  matched := by
    rw [ofNat_countP_concat, ← h.matched]
    exact m.ruleMatches.total_bumpNamed _
  compiled := h.compiled
  granted := h.granted

/-- **One attempt more.**  An attempt that got no parser is in the list too, and in no counter. -/
theorem attempted (h : m.Counts results attempts) (g : Gate) (id : RuleId) (text : String) :
    (m.attempted (g.newRule id text).1).Counts results (attempts ++ [g.attempt id text]) := by
  change (m.attempted (g.attempt id text).result).Counts _ _
  generalize hattempt : g.attempt id text = attempt
  have hcases := g.attempt_cases id text
  rw [hattempt] at hcases
  have counted : ∀ m' : Metrics,
      m'.evaluations = m.evaluations → m'.evaluationErrors = m.evaluationErrors →
      m'.decisions = m.decisions → m'.ruleMatches = m.ruleMatches →
      m'.compiled = m.compiled + .ofNat attempt.result.isOk.toNat →
      m'.compiled + m'.refused = m.compiled + m.refused + .ofNat attempt.granted.toNat →
      m'.Counts results (attempts ++ [attempt]) := by
    intro m' h₁ h₂ h₃ h₄ h₅ h₆
    refine ⟨h₁ ▸ h.1, h₂ ▸ h.2, h₃ ▸ h.3, h₃ ▸ h.4, h₄ ▸ h.5, h₄ ▸ h.6, ?_, ?_⟩
    · rw [h₅, ofNat_countP_concat, ← h.compiled]
    · rw [h₆, ofNat_countP_concat, ← h.granted]
  rcases hcases with ⟨hgranted, hresult, hnone⟩ | ⟨hgranted, ⟨rule, hresult⟩ | ⟨e, hresult⟩⟩
  · rw [hnone]
    refine counted m rfl rfl rfl rfl ?_ ?_
    · rw [hresult]
      exact (UInt64.add_zero _).symm
    · rw [hgranted]
      exact (UInt64.add_zero _).symm
  · rw [hresult]
    refine counted _ rfl rfl rfl rfl ?_ ?_
    · rw [hresult]
      rfl
    · rw [hgranted]
      change m.compiled + 1 + m.refused = m.compiled + m.refused + 1
      grind
  · rw [hresult]
    refine counted _ rfl rfl rfl rfl ?_ ?_
    · rw [hresult]
      exact (UInt64.add_zero _).symm
    · rw [hgranted]
      exact (UInt64.add_assoc m.compiled m.refused 1).symm

/-- The gauge of clients is not a counter, and nothing that is counted here depends on it. -/
theorem setClients (h : m.Counts results attempts) (n : Nat) :
    (m.setClients n).Counts results attempts := ⟨h.1, h.2, h.3, h.4, h.5, h.6, h.7, h.8⟩

end Counts

end Metrics

namespace Gate

/-- A gate whose metrics count the results and the attempts so far. -/
def Counts (g : Gate) (results : List (Except EvaluationError Decision))
    (attempts : List Attempt) : Prop :=
  ∃ m, g.metrics = some m ∧ m.Counts results attempts

namespace Counts

variable {g : Gate} {results : List (Except EvaluationError Decision)} {attempts : List Attempt}

theorem decide (h : g.Counts results attempts) (rules : List Rule) (r : Request) :
    (g.decide rules r).2.Counts (results ++ [(g.decide rules r).1]) attempts := by
  obtain ⟨m, hm, hcounts⟩ := h
  refine ⟨_, ?_, hcounts.requested (g.table.recordHit r.address).1 _⟩
  rw [decide_metrics, hm]
  rfl

theorem newRule (h : g.Counts results attempts) (id : RuleId) (text : String) :
    (g.newRule id text).2.Counts results (attempts ++ [g.attempt id text]) := by
  obtain ⟨m, hm, hcounts⟩ := h
  refine ⟨_, ?_, hcounts.attempted g id text⟩
  rw [newRule_metrics, hm]
  rfl

/-- **Work on a list counts its attempts**, also if it ends in the midst of the list: what was read
before the fault has been counted. -/
theorem compileFrom : ∀ (configs : List RuleSource) {g : Gate} {attempts : List Attempt}
    (done : List Rule), g.Counts results attempts →
    (g.compileFrom done configs).2.Counts results (attempts ++ g.attemptsFrom done configs)
  | [], g, attempts, done, h => by
    rw [attemptsFrom, List.append_nil]
    exact h
  | c :: configs, g, attempts, done, h => by
    unfold Gate.compileFrom attemptsFrom
    by_cases hnew : done.any (·.id == c.id)
    · rw [if_pos hnew, if_pos hnew, List.append_nil]
      exact h
    · have hmade := h.newRule c.id c.text
      rw [if_neg hnew, if_neg hnew, List.append_cons]
      rcases hg : g.newRule c.id c.text with ⟨e | rule, g'⟩
      · rw [hg] at hmade
        rw [List.append_nil]
        exact hmade
      · rw [hg] at hmade
        dsimp only
        cases rule.missingList? g'.lists with
        | some name =>
          rw [List.append_nil]
          exact hmade
        | none => exact compileFrom configs _ hmade

theorem reload (h : g.Counts results attempts) (configs : List RuleSource) :
    (g.reload configs).2.Counts results (attempts ++ g.attemptsFrom [] configs) := by
  have hcompiled : (g.compile configs).2.Counts results _ := compileFrom configs [] h
  unfold Gate.reload
  split
  · next heq =>
    rw [heq] at hcompiled
    exact hcompiled
  · next heq =>
    rw [heq] at hcompiled
    exact hcompiled

theorem sweepOnTime (h : g.Counts results attempts) (idle : Duration) :
    (g.sweepOnTime idle).Counts results attempts := by
  obtain ⟨m, hm, hcounts⟩ := h
  refine ⟨m.setClients (g.sweep idle).2.table.size, ?_, hcounts.setClients _⟩
  exact congrArg (Option.map _) hm

/-- **One call** adds its result and its attempts to the lists, and the counters follow.  There is a
case for each kind of call. -/
theorem perform (h : g.Counts results attempts) (c : Call) :
    (g.perform c).2.Counts (results ++ (g.result? c).toList) (attempts ++ g.attemptsIn c) := by
  have decided : ∀ rules r, (g.decide rules r).2.Counts
      (results ++ [(g.decide rules r).1]) (attempts ++ []) := by
    intro rules r
    rw [List.append_nil]
    exact h.decide rules r
  have worked : ∀ {g' : Gate} {more : List Attempt}, g'.Counts results (attempts ++ more) →
      g'.Counts (results ++ []) (attempts ++ more) := by
    intro g' more h'
    rwa [List.append_nil]
  have rested : ∀ {g' : Gate}, g'.Counts results attempts →
      g'.Counts (results ++ []) (attempts ++ []) := by
    intro g' h'
    rwa [List.append_nil, List.append_nil]
  cases c with
  | decide rules r => exact decided rules r
  | action rules r => exact decided rules r
  | serve r => exact decided g.active.rules r
  | newRule id text => exact worked (h.newRule id text)
  | compile configs => exact worked (compileFrom configs [] h)
  | reload configs => exact worked (h.reload configs)
  | store rules => exact rested h
  | sweep idle => exact rested h
  | sweepOnTime idle => exact rested (h.sweepOnTime idle)
  | elapse millis => exact rested h

theorem run : ∀ (calls : List Call) {g : Gate} {results : List (Except EvaluationError Decision)}
    {attempts : List Attempt}, g.Counts results attempts →
    (g.run calls).2.Counts (results ++ g.results calls) (attempts ++ g.attempts calls)
  | [], _, _, _, h => by
    rw [Gate.results, Gate.attempts, List.append_nil, List.append_nil]
    exact h
  | c :: calls, g, _, _, h => by
    have hrun := run calls (h.perform c)
    rw [List.append_assoc, List.append_assoc] at hrun
    exact hrun

end Counts

end Gate

/-! ## 4. Matches are counted twice -/

namespace HitTable

/-- The matches of all clients. -/
def matchedInAll (t : HitTable) : UInt64 :=
  t.tallies.sum Tally.matched

theorem matchedInAll_change (t : HitTable) (a : Address) (f : Tally → Tally) :
    (t.change a f).matchedInAll + (t.tally a).matched =
      t.matchedInAll + (f (t.tally a)).matched := by
  have hold : (t.tally a).matched = ((t.tallies.get? a.canonical).map Tally.matched).getD 0 := by
    rw [tally, tally?]
    cases t.tallies.get? a.canonical <;> rfl
  rw [hold]
  exact t.tallies.sum_insert Tally.matched a.canonical (f (t.tally a))

/-- A hit is no match, and a rule that is named is one.  The tallies are summed modulo `2 ^ 64`, as
they are kept. -/
theorem matchedInAll_recordNamed (t : HitTable) (a : Address) (rule? : Option RuleId) :
    ((t.recordHit a).2.recordNamed a rule?).matchedInAll =
      t.matchedInAll + .ofNat rule?.isSome.toNat := by
  have hhit := t.matchedInAll_change a (.hit t.clock)
  change _ = t.matchedInAll + (t.tally a).matched at hhit
  rw [recordHit_eq]
  cases rule? with
  | none =>
    change (t.change a (.hit t.clock)).matchedInAll = t.matchedInAll + 0
    grind
  | some rule =>
    have hruled := (t.change a (.hit t.clock)).matchedInAll_change a (.ruled rule)
    change _ = _ + (((t.change a (.hit t.clock)).tally a).matched + 1) at hruled
    change ((t.change a (.hit t.clock)).recordMatch a rule).matchedInAll = t.matchedInAll + 1
    rw [recordMatch_eq]
    grind

end HitTable

namespace Gate

/-- **One call** adds a match to the tallies if its result names a rule.  A call that removes
entries is spared by the hypothesis, since their matches would go with them. -/
theorem perform_matched (g : Gate) (c : Call) (h : g.Spares [c]) :
    (g.perform c).2.table.matchedInAll = g.table.matchedInAll +
      .ofNat ((g.result? c).toList.countP fun result => (namedRule result).isSome) := by
  have decided : ∀ rules r, (g.decide rules r).2.table.matchedInAll = g.table.matchedInAll +
      .ofNat ([(g.decide rules r).1].countP fun result => (namedRule result).isSome) := by
    intro rules r
    rw [decide_table, HitTable.matchedInAll_recordNamed, List.countP_singleton]
    cases (namedRule (g.decide rules r).1).isSome <;> rfl
  have rested : ∀ {t : HitTable}, t.matchedInAll = g.table.matchedInAll →
      t.matchedInAll = g.table.matchedInAll + .ofNat 0 := by
    intro t ht
    rw [ht]
    exact (UInt64.add_zero _).symm
  cases c with
  | decide rules r => exact decided rules r
  | action rules r => exact decided rules r
  | serve r => exact decided g.active.rules r
  | newRule id text =>
    exact rested (congrArg HitTable.matchedInAll (newRule_agrees g id text).table)
  | compile configs =>
    exact rested (congrArg HitTable.matchedInAll (compile_agrees g configs).table)
  | reload configs => exact rested (congrArg HitTable.matchedInAll (reload_agrees g configs).table)
  | store rules => exact rested rfl
  | sweep idle => exact rested (congrArg HitTable.matchedInAll (g.table.sweep_none h.2))
  | sweepOnTime idle => exact rested (congrArg HitTable.matchedInAll (g.table.sweep_none h.2))
  | elapse millis => exact rested rfl

/-- **As long as no entry is removed** the tallies gain a match with each rule that is named, by
whatever client. -/
theorem run_matched : ∀ (calls : List Call) (g : Gate), g.Spares calls →
    (g.run calls).2.table.matchedInAll = g.table.matchedInAll +
      .ofNat ((g.results calls).countP fun result => (namedRule result).isSome)
  | [], g, _ => (UInt64.add_zero _).symm
  | c :: calls, g, h => by
    have hcall := g.perform_matched c ⟨trivial, h.2⟩
    have hrest := run_matched calls (g.perform c).2 h.1
    rw [hcall] at hrest
    rw [results, List.countP_append, UInt64.ofNat_add, ← UInt64.add_assoc]
    exact hrest

end Gate

/-! ## 5. Conservation -/

/-- **Nothing that happens is lost from the counters, and nothing is counted twice.**  Whatever a
gate with fresh metrics is asked, behind every run and up to wrapping: the evaluations are the
requests, and they are the decisions under all actions together with the errors; under an action
stand the replies that gave it, be it a rule's or the default, and under a rule the decisions that
named it; rules that were read and texts that were refused are the attempts that got a parser, and
the first of them those that made a rule.  Unless a sweep removed an entry, the tallies have gained
as many matches as stand under all rules. -/
theorem metrics_conserved (g : Gate) (hfresh : g.metrics = some {}) (calls : List Call) :
    ∃ m, (g.run calls).2.metrics = some m ∧
      m.evaluations = .ofNat (calls.countP fun c => c.client?.isSome) ∧
      m.evaluations = m.decisions.total + m.evaluationErrors ∧
      (∀ action, (m.decisions.get? action).getD 0 =
        .ofNat ((g.run calls).1.countP fun reply => reply.label? == some (some action))) ∧
      (g.run calls).1.filterMap Reply.label? = (g.results calls).map namedAction ∧
      (∀ rule, (m.ruleMatches.get? rule).getD 0 =
        .ofNat ((g.results calls).countP fun result => namedRule result == some rule)) ∧
      m.compiled + m.refused = .ofNat ((g.attempts calls).countP Attempt.granted) ∧
      m.compiled = .ofNat ((g.attempts calls).countP fun attempt => attempt.result.isOk) ∧
      (g.Spares calls →
        (g.run calls).2.table.matchedInAll = g.table.matchedInAll + m.ruleMatches.total) := by
  obtain ⟨m, hm, hcounts⟩ := Gate.Counts.run calls ⟨{}, hfresh, .fresh⟩
  rw [List.nil_append, List.nil_append] at hcounts
  refine ⟨m, hm, ?_, ?_, ?_, g.labels_run calls, hcounts.ruleMatches, hcounts.granted,
    hcounts.compiled, ?_⟩
  · rw [hcounts.evaluations, Gate.results_length]
  · have hfailed : (fun result : Except EvaluationError Decision => !result.isOk) =
        fun result => decide ¬result.isOk = true := by
      funext result
      cases result <;> rfl
    rw [hcounts.evaluations, hcounts.decided, hcounts.evaluationErrors, ← UInt64.ofNat_add, hfailed,
      ← List.length_eq_countP_add_countP]
  · intro action
    rw [hcounts.decisions action, Gate.countP_labels]
  · intro hspares
    rw [Gate.run_matched calls g hspares, hcounts.matched]

/-- A rule list of which the second text is refused, and three requests under a rule about
`10.0.0.0/8`: one that cannot be tested against it, one that it matches, and one by nobody's
rule. -/
def bustle : List Call :=
  [.reload [⟨1, "Hits > 1 => slow"⟩, ⟨2, "Hits >"⟩, ⟨3, "Hits > 3 => slow"⟩],
    .decide [rejectTens] (.ofAddress (.v6 0x20010DB8000000000000000000000001#128)),
    .action [rejectTens] (.ofAddress (.v4 0x0A000001#32)), .sweep (.ofSeconds 1),
    .serve (.ofAddress (.v4 0x0A000001#32))]

/-- Of the three requests one failed, one was rejected and one accepted; of the two texts that got
a parser one made a rule; and the one match is in the table as well. -/
theorem metrics_conserved_bustle :
    ∃ m, (Gate.run { metrics := some {} } bustle).2.metrics = some m ∧
      m.evaluations = 3 ∧ m.decisions.total + m.evaluationErrors = 3 ∧
      (m.decisions.get? "reject").getD 0 = 1 ∧ (m.ruleMatches.get? 9).getD 0 = 1 ∧
      m.compiled + m.refused = 2 ∧ m.compiled = 1 ∧
      (Gate.run { metrics := some {} } bustle).2.table.matchedInAll = m.ruleMatches.total := by
  have hspares : Gate.Spares { metrics := some {} } bustle :=
    ⟨⟨⟨⟨⟨trivial, trivial⟩, rfl⟩, trivial⟩, trivial⟩, trivial⟩
  obtain ⟨m, hm, hevaluations, hsum, hactions, -, hrules, hgranted, hcompiled, hmatched⟩ :=
    metrics_conserved { metrics := some {} } rfl bustle
  have hthree : m.evaluations = 3 := hevaluations
  refine ⟨m, hm, hthree, ?_, hactions "reject", hrules 9, hgranted, hcompiled, ?_⟩
  · rw [← hsum, hthree]
  · rw [hmatched hspares]
    exact UInt64.zero_add _

end Turnstile
