/-
# What is measured

What a piece of work leaves in the metrics depends on its outcome alone.  A request leaves what
`Metrics.requested` says of its result and of the number of its hit; an attempt to make a rule
leaves what `Metrics.attempted` says of what came of it (`Gate.decide_metrics`,
`Gate.newRule_metrics`).

**Metrics are read by label.**  Two metrics that give the same number under every label are the same
to whoever reads them, even if the labels came in another order (`Metrics.Same`).  Up to this it
makes no difference which of two requests is measured first (`Metrics.requested_comm`).
-/
import Turnstile.Proofs.Decision.FirstMatch

namespace Turnstile

open Gate (Decision)

/-! ## 1. What work leaves -/

/-- The action that a result names. -/
def namedAction : Except EvaluationError Decision → Option String
  | .ok decision => some decision.action
  | .error _ => none

namespace Metrics

/-- Adds one under a label if there is one. -/
def bumpNamed {κ : Type} [DecidableEq κ] (d : Dictionary κ UInt64) :
    Option κ → Dictionary κ UInt64
  | some k => bump d k
  | none => d

/-- **What a request leaves**, given the number of its hit and its result.  The gauge goes up with a
first hit, but only if the request is decided. -/
def requested (m : Metrics) (number : UInt64) (result : Except EvaluationError Decision) :
    Metrics :=
  { m with
    evaluations := m.evaluations + 1
    decisions := bumpNamed m.decisions (namedAction result)
    ruleMatches := bumpNamed m.ruleMatches (namedRule result)
    evaluationErrors := if result.isOk then m.evaluationErrors else m.evaluationErrors + 1
    clients :=
      if number = 1 ∧ result.isOk then (m.clients + 1).bmod UInt64.size else m.clients }

/-- **What an attempt to make a rule leaves.**  One that gets no parser leaves nothing. -/
def attempted (m : Metrics) : Except Error Rule → Metrics
  | .ok _ => m.recordCompiled 1
  | .error (.parse _) => m.recordRefused 1
  | .error _ => m

theorem requested_error (m : Metrics) (number : UInt64) (e : EvaluationError) :
    m.requested number (.error e) = m.recordEvaluationError := by
  have hgauge : ¬(number = 1 ∧ (Except.error e : Except EvaluationError Decision).isOk) := by
    rintro ⟨-, h⟩
    cases h
  simp only [requested, if_neg hgauge]
  rfl

theorem requested_ok (m : Metrics) (number : UInt64) (decision : Decision) :
    m.requested number (.ok decision) =
      if number = 1 then (m.recordDecision decision.action decision.rule).addClient
      else m.recordDecision decision.action decision.rule := by
  have hgauge : (number = 1 ∧ (Except.ok decision : Except EvaluationError Decision).isOk) ↔
      number = 1 := ⟨And.left, fun hn => ⟨hn, rfl⟩⟩
  rcases decision with ⟨action, _ | rule⟩
  all_goals
    by_cases hn : number = 1
    · rw [if_pos hn]
      simp only [requested, if_pos (hgauge.2 hn)]
      rfl
    · rw [if_neg hn]
      simp only [requested, if_neg fun h => hn (hgauge.1 h)]
      rfl

end Metrics

namespace Gate

variable (g : Gate)

theorem decide_metrics (rules : List Rule) (r : Request) :
    (g.decide rules r).2.metrics =
      g.metrics.map (·.requested (g.table.recordHit r.address).1 (g.decide rules r).1) := by
  rcases hf : (firstMatch (.ofRequest r (g.table.recordHit r.address).1 g.lists) rules).outcome with
    e | _ | rule
  · simp only [decide, hf, Metrics.requested_error]
    rfl
  all_goals
    simp only [decide, hf, Metrics.requested_ok, measure]
    by_cases hn : (g.table.recordHit r.address).1 = 1
    · simp only [hn, if_true, Option.map_map]
      rfl
    · simp only [hn, if_false]

theorem acquire_metrics : g.acquire.2.metrics = g.metrics := by
  unfold acquire
  split
  · rfl
  · split
    · rfl
    · rfl

/-- A caller that gets no parser is told so, which is no fault of its text and counts as none. -/
theorem acquire_error {e : Error} {g' : Gate} (h : g.acquire = (.error e, g'))
    (m : Metrics) : m.attempted (.error e) = m := by
  unfold acquire at h
  split at h
  · cases h
  · split at h
    · cases h
      rfl
    · cases h
      rfl

theorem newRule_metrics (rule : RuleId) (text : String) :
    (g.newRule rule text).2.metrics = g.metrics.map (·.attempted (g.newRule rule text).1) := by
  have hmetrics := g.acquire_metrics
  unfold newRule
  split
  · next e g' heq =>
    rw [heq] at hmetrics
    have hnone : (fun m : Metrics => m.attempted (.error e)) = id :=
      funext fun m => g.acquire_error heq m
    rw [hnone, Option.map_id]
    exact hmetrics
  · next w g' heq =>
    rw [heq] at hmetrics
    change g'.metrics = g.metrics at hmetrics
    rw [← hmetrics]
    rcases w.parse rule text with ⟨e | made, w'⟩
    · rfl
    · rfl

end Gate

/-! ## 2. Reading by label -/

namespace Metrics

/-- Metrics that give the same number under every label. -/
structure Same (m m' : Metrics) : Prop where
  evaluations : m.evaluations = m'.evaluations
  decisions (action : String) : m.decisions.get? action = m'.decisions.get? action
  ruleMatches (rule : RuleId) : m.ruleMatches.get? rule = m'.ruleMatches.get? rule
  evaluationErrors : m.evaluationErrors = m'.evaluationErrors
  compiled : m.compiled = m'.compiled
  refused : m.refused = m'.refused
  clients : m.clients = m'.clients

theorem get?_bumpNamed {κ : Type} [DecidableEq κ] (d : Dictionary κ UInt64) (label : Option κ)
    (k : κ) : (bumpNamed d label).get? k =
      if label = some k then some ((d.get? k).getD 0 + 1) else d.get? k := by
  rcases label with _ | j
  · rfl
  · rw [bumpNamed, bump, Dictionary.get?_insert]
    by_cases h : k = j
    · rw [if_pos h, if_pos (congrArg some h.symm), h]
    · rw [if_neg h, if_neg fun h' => h (Option.some.inj h').symm]

theorem bumpNamed_congr {κ : Type} [DecidableEq κ] {d d' : Dictionary κ UInt64}
    (h : ∀ k, d.get? k = d'.get? k) (label : Option κ) (k : κ) :
    (bumpNamed d label).get? k = (bumpNamed d' label).get? k := by
  rw [get?_bumpNamed, get?_bumpNamed, h]

theorem bumpNamed_comm {κ : Type} [DecidableEq κ] (d : Dictionary κ UInt64)
    (first second : Option κ) (k : κ) :
    (bumpNamed (bumpNamed d first) second).get? k =
      (bumpNamed (bumpNamed d second) first).get? k := by
  simp only [get?_bumpNamed]
  by_cases h₁ : first = some k <;> by_cases h₂ : second = some k <;>
    simp only [h₁, h₂, if_true, if_false, Option.getD_some]

variable {m m' : Metrics}

theorem Same.requested (h : m.Same m') (number : UInt64)
    (result : Except EvaluationError Decision) :
    (m.requested number result).Same (m'.requested number result) where
  evaluations := congrArg (· + 1) h.evaluations
  decisions := bumpNamed_congr h.decisions _
  ruleMatches := bumpNamed_congr h.ruleMatches _
  evaluationErrors := by simp only [Metrics.requested, h.evaluationErrors]
  compiled := h.compiled
  refused := h.refused
  clients := by simp only [Metrics.requested, h.clients]

theorem Same.attempted (h : m.Same m') (result : Except Error Rule) :
    (m.attempted result).Same (m'.attempted result) := by
  have hcompiled : (m.recordCompiled 1).Same (m'.recordCompiled 1) :=
    ⟨h.evaluations, h.decisions, h.ruleMatches, h.evaluationErrors,
      congrArg (· + 1) h.compiled, h.refused, h.clients⟩
  have hrefused : (m.recordRefused 1).Same (m'.recordRefused 1) :=
    ⟨h.evaluations, h.decisions, h.ruleMatches, h.evaluationErrors,
      h.compiled, congrArg (· + 1) h.refused, h.clients⟩
  rcases result with e | rule
  · cases e with
    | parse e => exact hrefused
    | _ => exact h
  · exact hcompiled

theorem Same.setClients (h : m.Same m') (n : Nat) : (m.setClients n).Same (m'.setClients n) :=
  ⟨h.evaluations, h.decisions, h.ruleMatches, h.evaluationErrors, h.compiled, h.refused, rfl⟩

/-- **Requests may be measured in any order.**  Counters are sums, and those under labels only
differ in the order in which the labels came. -/
theorem requested_comm (m : Metrics) (n₁ n₂ : UInt64)
    (r₁ r₂ : Except EvaluationError Decision) :
    ((m.requested n₁ r₁).requested n₂ r₂).Same ((m.requested n₂ r₂).requested n₁ r₁) where
  evaluations := rfl
  decisions := bumpNamed_comm _ _ _
  ruleMatches := bumpNamed_comm _ _ _
  evaluationErrors := by
    simp only [requested]
    by_cases h₁ : r₁.isOk <;> by_cases h₂ : r₂.isOk <;>
      simp only [h₁, h₂, if_true, if_false, Bool.false_eq_true]
  compiled := rfl
  refused := rfl
  clients := by
    simp only [requested]
    by_cases h₁ : n₁ = 1 ∧ r₁.isOk <;> by_cases h₂ : n₂ = 1 ∧ r₂.isOk <;>
      simp only [h₁, h₂, if_false]

end Metrics

end Turnstile
