/-
# Runs of a gate

Everything that callers can ask of a gate, one call after the other: decisions by a list of
rules of their own or by the active one, rules and rule sets to read, rule sets to make active,
and sweeps, with any time passing in between.

**Work on rules does not touch what decisions depend on.**  Reading rules, one or many, changes the
pool and the metrics, and a rule set that becomes active changes which rules are active; default
action, access lists and hit table stay (`Gate.Agrees`).

`Gate.script` writes the rules that are active at the time of a call into the call.  A run of the
script needs no rule sets any more; what it answers can be compared with a reference that knows of
none.
-/
import Turnstile.Gate

namespace Turnstile

/-! ## 1. Calls -/

/-- What a gate is asked for. -/
inductive Call where
  | decide (rules : List Rule) (r : Request)
  | action (rules : List Rule) (r : Request)
  /-- A decision by the active rules. -/
  | serve (r : Request)
  | newRule (id : RuleId) (text : String)
  | compile (configs : List RuleSource)
  | reload (configs : List RuleSource)
  | store (rules : RuleSet)
  | sweep (idle : Duration)
  | sweepOnTime (idle : Duration)
  | elapse (millis : Nat)

/-- What a gate answers. -/
inductive Reply where
  | decision (result : Except EvaluationError Gate.Decision)
  | action (result : Except EvaluationError String)
  /-- A call that was no request. -/
  | done

namespace Gate

/-- Lets time pass. -/
def elapse (g : Gate) (millis : Nat) : Gate :=
  { g with table := g.table.elapse millis }

/-- Answers one call. -/
def perform (g : Gate) : Call → Reply × Gate
  | .decide rules r => (.decision (g.decide rules r).1, (g.decide rules r).2)
  | .action rules r => (.action (g.action rules r).1, (g.action rules r).2)
  | .serve r => (.decision (g.decide g.active.rules r).1, (g.decide g.active.rules r).2)
  | .newRule id text => (.done, (g.newRule id text).2)
  | .compile configs => (.done, (g.compile configs).2)
  | .reload configs => (.done, (g.reload configs).2)
  | .store rules => (.done, g.store rules)
  | .sweep idle => (.done, (g.sweep idle).2)
  | .sweepOnTime idle => (.done, g.sweepOnTime idle)
  | .elapse millis => (.done, g.elapse millis)

/-- Answers calls one after the other. -/
def run (g : Gate) : List Call → List Reply × Gate
  | [] => ([], g)
  | c :: cs =>
    let (reply, g) := g.perform c
    let (replies, g) := g.run cs
    (reply :: replies, g)

theorem run_cons (g : Gate) (c : Call) (calls : List Call) : g.run (c :: calls) =
    ((g.perform c).1 :: ((g.perform c).2.run calls).1, ((g.perform c).2.run calls).2) := rfl

theorem run_append : ∀ (g : Gate) (calls more : List Call), g.run (calls ++ more) =
    ((g.run calls).1 ++ ((g.run calls).2.run more).1, ((g.run calls).2.run more).2)
  | _, [], _ => rfl
  | g, c :: calls, more => by
    rw [List.cons_append, run_cons, run_cons, run_append (g.perform c).2 calls more,
      List.cons_append]

theorem run_length : ∀ (g : Gate) (calls : List Call), (g.run calls).1.length = calls.length
  | _, [] => rfl
  | g, c :: calls => congrArg (· + 1) (run_length (g.perform c).2 calls)

/-- A call with the active rules written into it. -/
def given (g : Gate) : Call → Call
  | .serve r => .decide g.active.rules r
  | c => c

/-- The calls of a run, each with the rules that were active at its time. -/
def script (g : Gate) : List Call → List Call
  | [] => []
  | c :: cs => g.given c :: script (g.perform c).2 cs

/-! ## 2. Work on rules -/

/-- A gate that decides like another one. -/
structure Agrees (g' g : Gate) : Prop where
  defaultAction : g'.defaultAction = g.defaultAction
  lists : g'.lists = g.lists
  table : g'.table = g.table

namespace Agrees

theorem refl (g : Gate) : g.Agrees g := ⟨rfl, rfl, rfl⟩

theorem trans {g₁ g₂ g₃ : Gate} (h₁ : g₁.Agrees g₂) (h₂ : g₂.Agrees g₃) : g₁.Agrees g₃ :=
  ⟨h₁.1.trans h₂.1, h₁.2.trans h₂.2, h₁.3.trans h₂.3⟩

end Agrees

theorem acquire_agrees (g : Gate) : g.acquire.2.Agrees g := by
  unfold acquire
  split
  · exact ⟨rfl, rfl, rfl⟩
  · split
    · exact ⟨rfl, rfl, rfl⟩
    · exact ⟨rfl, rfl, rfl⟩

theorem newRule_agrees (g : Gate) (id : RuleId) (text : String) :
    (g.newRule id text).2.Agrees g := by
  have h := acquire_agrees g
  unfold newRule
  split
  · next heq => rwa [heq] at h
  · next heq =>
    rw [heq] at h
    exact ⟨h.1, h.2, h.3⟩

/-- **What each attempt to make a rule keeps between two gates, work on a whole list keeps.**  The
work consists of attempts, and stops on both sides at the same one. -/
theorem compileFrom_related {R : Gate → Gate → Prop}
    (hlists : ∀ g g', R g g' → g.lists = g'.lists)
    (hR : ∀ g g' rule text, R g g' → (g.newRule rule text).1 = (g'.newRule rule text).1 ∧
      R (g.newRule rule text).2 (g'.newRule rule text).2) :
    ∀ (configs : List RuleSource) (g g' : Gate) (done : List Rule), R g g' →
      (g.compileFrom done configs).1 = (g'.compileFrom done configs).1 ∧
      R (g.compileFrom done configs).2 (g'.compileFrom done configs).2
  | [], _, _, _, h => ⟨rfl, h⟩
  | c :: cs, g, g', done, h => by
    obtain ⟨hresult, hmade⟩ := hR g g' c.id c.text h
    unfold compileFrom
    by_cases hnew : done.any (·.id == c.id)
    · rw [if_pos hnew, if_pos hnew]
      exact ⟨rfl, h⟩
    · rw [if_neg hnew, if_neg hnew]
      rcases hg : g.newRule c.id c.text with ⟨result, after⟩
      rcases hg' : g'.newRule c.id c.text with ⟨result', after'⟩
      rw [hg, hg'] at hresult hmade
      change result = result' at hresult
      subst hresult
      cases result with
      | error e => exact ⟨rfl, hmade⟩
      | ok rule =>
        dsimp only
        rw [hlists after after' hmade]
        cases rule.missingList? after'.lists with
        | some name => exact ⟨rfl, hmade⟩
        | none => exact compileFrom_related hlists hR cs after after' _ hmade

theorem reload_related {R : Gate → Gate → Prop}
    (hlists : ∀ g g', R g g' → g.lists = g'.lists)
    (hR : ∀ g g' rule text, R g g' → (g.newRule rule text).1 = (g'.newRule rule text).1 ∧
      R (g.newRule rule text).2 (g'.newRule rule text).2)
    (hstore : ∀ g g' rules, R g g' → R (g.store rules) (g'.store rules))
    {g g' : Gate} (h : R g g') (configs : List RuleSource) :
    R (g.reload configs).2 (g'.reload configs).2 := by
  obtain ⟨hresult, hcompiled⟩ := compileFrom_related hlists hR configs g g' [] h
  unfold reload compile
  rcases hg : g.compileFrom [] configs with ⟨result, after⟩
  rcases hg' : g'.compileFrom [] configs with ⟨result', after'⟩
  rw [hg, hg'] at hresult hcompiled
  change result = result' at hresult
  subst hresult
  cases result with
  | error e => exact hcompiled
  | ok rules => exact hstore after after' ⟨rules⟩ hcompiled

/-- What each attempt to make a rule keeps, work on a whole list keeps, whether it succeeds or ends
in the midst of the list. -/
theorem compile_keeps {P : Gate → Prop} (hP : ∀ g rule text, P g → P (g.newRule rule text).2)
    {g : Gate} (h : P g) (configs : List RuleSource) : P (g.compile configs).2 := by
  have hrelated := compileFrom_related (R := fun g g' => P g ∧ g = g')
    (fun _ _ hg => congrArg Gate.lists hg.2)
    (fun g _ rule text hg => ⟨by rw [hg.2], hP g rule text hg.1, by rw [hg.2]⟩)
    configs g g [] ⟨h, rfl⟩
  exact hrelated.2.1

theorem reload_keeps {P : Gate → Prop} (hP : ∀ g rule text, P g → P (g.newRule rule text).2)
    (hstore : ∀ g rules, P g → P (g.store rules)) {g : Gate} (h : P g)
    (configs : List RuleSource) : P (g.reload configs).2 := by
  have hcompiled := compile_keeps hP h configs
  unfold reload
  split
  · next rules g' heq =>
    rw [heq] at hcompiled
    exact hstore g' rules hcompiled
  · next heq => rwa [heq] at hcompiled

theorem compile_agrees (g : Gate) (configs : List RuleSource) : (g.compile configs).2.Agrees g :=
  compile_keeps (fun g' rule text h => (newRule_agrees g' rule text).trans h) (.refl g) configs

theorem reload_agrees (g : Gate) (configs : List RuleSource) : (g.reload configs).2.Agrees g :=
  reload_keeps (fun g' rule text h => (newRule_agrees g' rule text).trans h)
    (fun _ _ h => ⟨h.1, h.2, h.3⟩) (.refl g) configs

end Gate

end Turnstile
