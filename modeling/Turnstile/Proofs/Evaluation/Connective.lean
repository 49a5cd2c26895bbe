/-
# Nodes by their connective

Conjunctions and disjunctions are evaluated alike: children are tried from left to right, and one
whose answer is not the node's own answer for no children decides.  Here both are one kind of node
with a `Connective`, so that what holds of either is said once (`Connective.evaluate_append`), and a
negation turns one into the other (`Connective.evaluate_map_not`).

Evaluations behind one another form a monoid, and to negate one only changes which answer goes on
(`Evaluation.negate_andThen`, `Evaluation.andThen_negate`).  The equations for nodes are derived in
this algebra, so they hold of outcomes and of reads alike.

`Predicate.induction` is the induction on trees that goes with it: leaves, negations and nodes.
-/
import Turnstile.Proofs.Evaluation.Tree

namespace Turnstile

/-! ## 1. Evaluations as an algebra -/

namespace Evaluation

variable (e : Evaluation) (next further : Bool → Evaluation)

@[simp] theorem negate_negate : e.negate.negate = e := by
  obtain ⟨m | holds, reads⟩ := e
  · rfl
  · simp [negate, Except.map]

/-- What comes behind the opposite of an answer: a negation in front may be moved into the choice of
what is evaluated next. -/
theorem andThen_negate : e.negate.andThen next = e.andThen fun holds => next !holds := by
  obtain ⟨m | holds, reads⟩ := e
  · rfl
  · rfl

/-- The opposite of what comes behind an answer is a negation of each evaluation that may come next;
what is read stays as it is. -/
theorem negate_andThen : (e.andThen next).negate = e.andThen fun holds => (next holds).negate := by
  obtain ⟨m | holds, reads⟩ := e
  · rfl
  · rfl

theorem andThen_assoc :
    (e.andThen next).andThen further = e.andThen fun holds => (next holds).andThen further := by
  obtain ⟨m | holds, reads⟩ := e
  · rfl
  · rcases hnext : next holds with ⟨m | holds', reads'⟩
    · simp [andThen, hnext]
    · simp [andThen, hnext]

/-- An answer behind which nothing comes is the evaluation itself, so that the last child of a node
needs no case of its own. -/
theorem andThen_pure : e.andThen pure = e := by
  obtain ⟨m | holds, reads⟩ := e
  · rfl
  · simp [andThen, pure]

variable {next further} in
/-- What comes behind an evaluation is given by what comes behind either answer, so equal
continuations are shown by two cases. -/
theorem andThen_congr (htrue : next true = further true) (hfalse : next false = further false) :
    e.andThen next = e.andThen further := by
  congr 1
  funext holds
  cases holds with
  | true => exact htrue
  | false => exact hfalse

end Evaluation

/-! ## 2. Connectives -/

/-- How a node joins its children. -/
inductive Connective where
  | all
  | any
deriving DecidableEq, Repr

namespace Connective

/-- The answer of a node without children.  A child with any other answer decides. -/
def unit : Connective → Bool
  | all => true
  | any => false

/-- The other connective. -/
def dual : Connective → Connective
  | all => any
  | any => all

/-- The node with some children. -/
def node : Connective → List Predicate → Predicate
  | all => .all
  | any => .any

@[simp] theorem dual_dual (c : Connective) : c.dual.dual = c := by
  cases c with
  | all => rfl
  | any => rfl

variable (c : Connective)

theorem node_inj {c d : Connective} {ps qs : List Predicate} (h : c.node ps = d.node qs) :
    c = d ∧ ps = qs := by
  cases c with
  | all =>
    cases d with
    | all => exact ⟨rfl, Predicate.all.inj h⟩
    | any => cases h
  | any =>
    cases d with
    | all => cases h
    | any => exact ⟨rfl, Predicate.any.inj h⟩

/-- A node is no leaf and asks for no fact, which is how the induction below tells the three cases
apart. -/
theorem fact?_node (ps : List Predicate) : (c.node ps).fact? = none := by
  cases c with
  | all => rfl
  | any => rfl

theorem node_ne_not (ps : List Predicate) (p : Predicate) : c.node ps ≠ .not p := by
  cases c with
  | all => exact nofun
  | any => exact nofun

/-! ## 3. Evaluation of nodes -/

variable (facts : Facts)

theorem evaluate_nil : evaluate facts (c.node []) = .pure c.unit := by
  cases c with
  | all => rfl
  | any => rfl

theorem evaluate_cons (p : Predicate) (ps : List Predicate) :
    evaluate facts (c.node (p :: ps)) = (evaluate facts p).andThen fun holds =>
      if holds = c.unit then evaluate facts (c.node ps) else .pure holds := by
  cases c with
  | all => exact Evaluation.andThen_congr _ rfl rfl
  | any => exact Evaluation.andThen_congr _ rfl rfl

/-- **Children behind others** are come to if the others have not decided.  All the laws that join
or split nodes are read off this one equation. -/
theorem evaluate_append (ps qs : List Predicate) :
    evaluate facts (c.node (ps ++ qs)) = (evaluate facts (c.node ps)).andThen fun holds =>
      if holds = c.unit then evaluate facts (c.node qs) else .pure holds := by
  induction ps with
  | nil =>
    rw [evaluate_nil]
    exact (if_pos rfl).symm
  | cons p ps ih =>
    rw [List.cons_append, evaluate_cons, evaluate_cons, Evaluation.andThen_assoc, ih]
    cases c with
    | all => exact Evaluation.andThen_congr _ rfl rfl
    | any => exact Evaluation.andThen_congr _ rfl rfl

/-- A single child is evaluated as it is, whichever the connective, for there is nothing to decide
against it. -/
theorem evaluate_singleton (p : Predicate) : evaluate facts (c.node [p]) = evaluate facts p := by
  rw [evaluate_cons, evaluate_nil]
  calc (evaluate facts p).andThen _ = (evaluate facts p).andThen .pure := by
        cases c with
        | all => exact Evaluation.andThen_congr _ rfl rfl
        | any => exact Evaluation.andThen_congr _ rfl rfl
    _ = evaluate facts p := Evaluation.andThen_pure _

/-- **The negations of children under the other connective** come to the opposite, in the same way:
what decides one node decides the other. -/
theorem evaluate_map_not (ps : List Predicate) :
    evaluate facts (c.dual.node (ps.map .not)) = (evaluate facts (c.node ps)).negate := by
  induction ps with
  | nil =>
    rw [List.map_nil, evaluate_nil, evaluate_nil]
    cases c with
    | all => rfl
    | any => rfl
  | cons p ps ih =>
    rw [List.map_cons, evaluate_cons, evaluate_cons, ih, evaluate, Evaluation.andThen_negate,
      Evaluation.negate_andThen]
    cases c with
    | all => exact Evaluation.andThen_congr _ rfl rfl
    | any => exact Evaluation.andThen_congr _ rfl rfl

end Connective

/-! ## 4. Induction on trees -/

mutual

/-- **Induction on trees**: leaves, negations, and nodes of either connective.  It stands in for the
recursor of the nested type, whose motive for lists of children would have to be repeated in each
proof. -/
@[elab_as_elim]
theorem Predicate.induction {motive : Predicate → Prop}
    (leaf : ∀ p : Predicate, p.fact? ≠ none → motive p) (not : ∀ p, motive p → motive (.not p))
    (node : ∀ (c : Connective) (ps : List Predicate), (∀ p ∈ ps, motive p) → motive (c.node ps)) :
    ∀ p : Predicate, motive p
  | .not p => not p (induction leaf not node p)
  | .all ps => node .all ps (inductionOf leaf not node ps)
  | .any ps => node .any ps (inductionOf leaf not node ps)
  | .addressIs _ | .addressIn _ | .addressListed _ | .fieldIs _ _ | .fieldMatches _ _
  | .hitsAbove _ => leaf _ (Option.some_ne_none _)

theorem Predicate.inductionOf {motive : Predicate → Prop}
    (leaf : ∀ p : Predicate, p.fact? ≠ none → motive p) (not : ∀ p, motive p → motive (.not p))
    (node : ∀ (c : Connective) (ps : List Predicate), (∀ p ∈ ps, motive p) → motive (c.node ps)) :
    ∀ ps : List Predicate, ∀ p ∈ ps, motive p
  | [] => fun _ h => absurd h List.not_mem_nil
  | p :: ps => List.forall_mem_cons.2 ⟨induction leaf not node p, inductionOf leaf not node ps⟩

end

end Turnstile
