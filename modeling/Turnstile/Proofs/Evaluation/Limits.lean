/-
# Limits stay tripped

A limit holds from some hit count on and never again fails.  A tree may turn that round, by
negations, but as long as all its limits stand under an even number of them it can only come to hold
with more hits, and under an odd number only cease to hold.

**Values first.**  Two evaluations at different counts do not come to the same leaves, so an error
may be there at one count and not at the other.  The truth value of the tree is defined at both, and
it moves in one direction (`Predicate.truth_stays`); where both evaluations have an answer, the
answers are these values.

**One induction for both directions.**  It says which value stays: `true` under an even number of
negations and `false` under an odd one.  A negation changes the parity and the value together, and a
node keeps a value because all its children do or because one of them does.
-/
import Mathlib.Algebra.Ring.Parity
import Turnstile.Proofs.Evaluation.Connective
import Turnstile.Proofs.Evaluation.Mismatch

namespace Turnstile

namespace Predicate

/-! ## 1. Limits and the negations around them -/

mutual

/-- How many negations each limit on hits stands under, in the order of the text. -/
def limitDepths : Predicate → List Nat
  | hitsAbove _ => [0]
  | not child => child.limitDepths.map (· + 1)
  | all children => limitDepthsOf children
  | any children => limitDepthsOf children
  | _ => []

/-- The same for several trees. -/
def limitDepthsOf : List Predicate → List Nat
  | [] => []
  | p :: ps => p.limitDepths ++ limitDepthsOf ps

end

theorem mem_limitDepthsOf {n : Nat} {ps : List Predicate} :
    n ∈ limitDepthsOf ps ↔ ∃ p ∈ ps, n ∈ p.limitDepths := by
  induction ps with
  | nil => simp [limitDepthsOf]
  | cons p ps ih => simp [limitDepthsOf, ih]

theorem mem_limitDepths_node {n : Nat} {c : Connective} {ps : List Predicate} :
    n ∈ (c.node ps).limitDepths ↔ ∃ p ∈ ps, n ∈ p.limitDepths := by
  cases c with
  | all => rw [Connective.node, limitDepths, mem_limitDepthsOf]
  | any => rw [Connective.node, limitDepths, mem_limitDepthsOf]

/-- The limits of a tree keep a value: `true` if all of them stand under an even number of
negations, and `false` if none does. -/
def LimitsKeep (p : Predicate) (value : Bool) : Prop :=
  ∀ n ∈ p.limitDepths, Even n ↔ value = true

variable {p : Predicate} {ps : List Predicate} {value : Bool}

theorem limitsKeep_not : (not p).LimitsKeep value ↔ p.LimitsKeep !value := by
  rw [LimitsKeep, LimitsKeep, limitDepths, List.forall_mem_map]
  refine forall₂_congr fun n _ => ?_
  rw [Nat.even_add_one]
  cases value with
  | true => simp
  | false => simp

theorem LimitsKeep.child {c : Connective} (h : (c.node ps).LimitsKeep value) :
    ∀ p ∈ ps, p.LimitsKeep value :=
  fun p hp n hn => h n (mem_limitDepths_node.2 ⟨p, hp, hn⟩)

/-! ## 2. Truth values at two counts -/

/-- A node has the value of its connective if all its children have it: the conjunction is true if
they are, and the disjunction is false if they are. -/
theorem truth_node_eq_unit_iff {c : Connective} {facts : Facts} {guess : Bool} :
    (c.node ps).truth facts (fun _ => guess) = c.unit ↔
      ∀ p ∈ ps, p.truth facts (fun _ => guess) = c.unit := by
  cases c with
  | all =>
    rw [Connective.node, truth, truths_const]
    simp [Connective.unit]
  | any =>
    rw [Connective.node, truth, truths_const]
    simp [Connective.unit]

/-- **The value that the limits of a tree keep stays** as the hits go up.  It is stated for a value
and not for truth, since each negation on the way to a limit turns the value round. -/
theorem truth_stays (facts : Facts) {more : UInt64} (hmore : facts.hits ≤ more) (guess : Bool)
    (p : Predicate) : ∀ value, p.LimitsKeep value → p.truth facts (fun _ => guess) = value →
      p.truth { facts with hits := more } (fun _ => guess) = value := by
  induction p using Predicate.induction with
  | leaf p hleaf =>
    intro value hkeep htruth
    cases p with
    | hitsAbove n =>
      obtain rfl : value = true := (hkeep 0 List.mem_cons_self).1 Even.zero
      have htripped : n < facts.hits := of_decide_eq_true htruth
      exact decide_eq_true (UInt64.lt_of_lt_of_le htripped hmore)
    | not _ | all _ | any _ => exact absurd rfl hleaf
    | _ => exact htruth
  | not p ih =>
    intro value hkeep htruth
    rw [truth, Bool.not_eq_eq_eq_not] at htruth ⊢
    exact ih _ (limitsKeep_not.1 hkeep) htruth
  | node c ps ih =>
    intro value hkeep htruth
    have hchild : ∀ p ∈ ps, p.truth facts (fun _ => guess) = value →
        p.truth { facts with hits := more } (fun _ => guess) = value :=
      fun p hp => ih p hp value (hkeep.child p hp)
    by_cases hunit : value = c.unit
    · subst hunit
      rw [truth_node_eq_unit_iff] at htruth ⊢
      exact fun p hp => hchild p hp (htruth p hp)
    · -- a child with another value than the connective's decides, and it stays
      have hother : ∀ b : Bool, b = value ↔ b ≠ c.unit := by
        intro b
        rw [Bool.eq_not_of_ne hunit, Bool.eq_not]
      rw [hother, ne_eq, truth_node_eq_unit_iff, not_forall₂] at htruth ⊢
      obtain ⟨p, hp, hne⟩ := htruth
      exact ⟨p, hp, (hother _).1 (hchild p hp ((hother _).2 hne))⟩

end Predicate

/-! ## 3. Answers at two counts -/

/-- **Limits do not come untripped.**  Take a request and access lists, and a hit count that goes
up.  If all limits of a tree stand under an even number of negations and the tree holds at the lower
count, it holds at the higher one, unless it fails there; and if all of them stand under an odd
number and the tree does not hold at the lower count, it does not at the higher one, unless it fails
there. -/
theorem limits_stay_tripped (r : Request) (lists : AccessLists) (hits more : UInt64)
    (hmore : hits ≤ more) (p : Predicate) (holds : Bool) :
    ((∀ n ∈ p.limitDepths, Even n) → (evaluate (.ofRequest r hits lists) p).outcome = .ok true →
      (evaluate (.ofRequest r more lists) p).outcome = .ok holds → holds = true) ∧
    ((∀ n ∈ p.limitDepths, Odd n) → (evaluate (.ofRequest r hits lists) p).outcome = .ok false →
      (evaluate (.ofRequest r more lists) p).outcome = .ok holds → holds = false) := by
  have hstays : ∀ value, p.LimitsKeep value →
      (evaluate (.ofRequest r hits lists) p).outcome = .ok value →
      (evaluate (.ofRequest r more lists) p).outcome = .ok holds → holds = value := by
    intro value hkeep hfew hmany
    have hvalue := truth_of_outcome_ok hfew fun _ => true
    rw [← truth_of_outcome_ok hmany fun _ => true]
    exact Predicate.truth_stays (.ofRequest r hits lists) hmore true p value hkeep hvalue
  constructor
  · intro heven
    exact hstays true fun n hn => iff_of_true (heven n hn) rfl
  · intro hodd
    exact hstays false fun n hn =>
      iff_of_false (Nat.not_even_iff_odd.2 (hodd n hn)) Bool.false_ne_true

/-- A stranger to `10.0.0.0/8` whose hits go up from 6 to 9.  Under two negations or none, limits of
2 and 5 hits stay tripped, in front of a block that would fail; at 3 hits it does fail. -/
theorem limits_stay_tripped_stranger :
    ∃ (tens : Block) (r : Request) (p q : Predicate),
      r.address = .v6 0x20010DB8000000000000000000000001#128 ∧
      p = .all [.not (.not (.hitsAbove 2)), .any [.hitsAbove 5, .addressIn tens]] ∧
      q = .not p ∧ p.limitDepths = [2, 0] ∧ q.limitDepths = [3, 1] ∧ (6 : UInt64) ≤ 9 ∧
      (evaluate (.ofRequest r 3 {}) p).outcome = .error ⟨tens, r.address⟩ ∧
      (∀ holds, (evaluate (.ofRequest r 9 {}) p).outcome = .ok holds → holds = true) ∧
      ∀ holds, (evaluate (.ofRequest r 9 {}) q).outcome = .ok holds → holds = false := by
  let tens : Block := .v4 ⟨0x0A000000#32, 8, by decide, by decide⟩
  let r : Request := .ofAddress (.v6 0x20010DB8000000000000000000000001#128)
  let p : Predicate := .all [.not (.not (.hitsAbove 2)), .any [.hitsAbove 5, .addressIn tens]]
  have hmore : (6 : UInt64) ≤ 9 := by decide
  refine ⟨tens, r, p, .not p, rfl, rfl, rfl, rfl, rfl, hmore, rfl, ?_, ?_⟩
  · intro holds
    exact (limits_stay_tripped r {} 6 9 hmore p holds).1 (by decide) rfl
  · intro holds
    exact (limits_stay_tripped r {} 6 9 hmore (.not p) holds).2 (by decide) rfl

end Turnstile
