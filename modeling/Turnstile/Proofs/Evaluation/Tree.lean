/-
# Evaluation by leaves

A tree has no facts of its own: it asks what its leaves ask.  So what two sets of facts make of a
tree is decided at its leaves (`evaluate_congr`), and the facts that are read on the way are those
of some of them, in their order (`reads_sublist`).

Both are inductions on the tree with one case for each kind of node.  What a node does with its
children goes through `Evaluation.andThen`, which either stops with an error or goes on.
-/
import Turnstile.Evaluation
import Turnstile.Proofs.Rule.Leaves

namespace Turnstile

/-! ## 1. Leaves and their facts -/

namespace Predicate

/-- The fact that a leaf asks for. -/
def fact? : Predicate → Option Fact
  | addressIs _ | addressIn _ => some .address
  | addressListed list => some (.list list)
  | fieldIs f _ | fieldMatches f _ => some f.fact
  | hitsAbove _ => some .hits
  | not _ | all _ | any _ => none

mutual

/-- A leaf of a tree is no inner node, so it asks for exactly one fact when it is evaluated. -/
theorem fact?_ne_none_of_mem_leaves {leaf : Predicate} : ∀ {p : Predicate}, leaf ∈ p.leaves →
    leaf.fact? ≠ none
  | not _, h => fact?_ne_none_of_mem_leaves (by rwa [leaves] at h)
  | all _, h | any _, h => fact?_ne_none_of_mem_leavesOf (by rwa [leaves] at h)
  | addressIs _, h | addressIn _, h | addressListed _, h | fieldIs _ _, h | fieldMatches _ _, h
  | hitsAbove _, h => by
    rw [List.mem_singleton.1 h]
    exact Option.some_ne_none _

theorem fact?_ne_none_of_mem_leavesOf {leaf : Predicate} : ∀ {ps : List Predicate},
    leaf ∈ leavesOf ps → leaf.fact? ≠ none
  | [], h => absurd h List.not_mem_nil
  | _ :: _, h => by
    rw [leavesOf] at h
    rcases List.mem_append.1 h with h | h
    · exact fact?_ne_none_of_mem_leaves h
    · exact fact?_ne_none_of_mem_leavesOf h

end

end Predicate

/-! ## 2. One evaluation behind another -/

namespace Evaluation

variable {e : Evaluation} {next : Bool → Evaluation}

theorem outcome_andThen_ok {holds : Bool} (h : e.outcome = .ok holds) :
    (e.andThen next).outcome = (next holds).outcome := by
  rw [andThen, h]

theorem outcome_andThen_error {m : FamilyMismatch} (h : e.outcome = .error m) :
    (e.andThen next).outcome = .error m := by
  rw [andThen, h]
  exact h

/-- What is read is read before or behind, and in this order.  It is a sublist only, since the
evaluation may stop in front. -/
theorem reads_andThen_sublist {front back : List Fact} (he : e.reads.Sublist front)
    (hnext : ∀ holds, (next holds).reads.Sublist back) :
    (e.andThen next).reads.Sublist (front ++ back) := by
  unfold andThen
  split
  · next holds _ => exact he.append (hnext holds)
  · exact he.trans (List.sublist_append_left _ _)

end Evaluation

/-! ## 3. Two sets of facts -/

mutual

/-- **Facts that leave every leaf as it is** leave the tree as it is, with what it reads: the
connectives look at nothing but their children's answers. -/
theorem evaluate_congr {facts facts' : Facts} : ∀ p : Predicate,
    (∀ leaf ∈ p.leaves, evaluate facts leaf = evaluate facts' leaf) →
      evaluate facts p = evaluate facts' p
  | .not p, h => by
    rw [evaluate, evaluate, evaluate_congr p h]
  | .all ps, h => by
    rw [evaluate, evaluate]
    exact evaluateAll_congr ps h
  | .any ps, h => by
    rw [evaluate, evaluate]
    exact evaluateAny_congr ps h
  | .addressIs _, h | .addressIn _, h | .addressListed _, h | .fieldIs _ _, h
  | .fieldMatches _ _, h | .hitsAbove _, h => h _ (List.mem_singleton_self _)

theorem evaluateAll_congr {facts facts' : Facts} : ∀ ps : List Predicate,
    (∀ leaf ∈ Predicate.leavesOf ps, evaluate facts leaf = evaluate facts' leaf) →
      evaluateAll facts ps = evaluateAll facts' ps
  | [], _ => rfl
  | p :: ps, h => by
    rw [evaluateAll, evaluateAll,
      evaluate_congr p fun leaf hleaf => h leaf (List.mem_append_left _ hleaf),
      evaluateAll_congr ps fun leaf hleaf => h leaf (List.mem_append_right _ hleaf)]

theorem evaluateAny_congr {facts facts' : Facts} : ∀ ps : List Predicate,
    (∀ leaf ∈ Predicate.leavesOf ps, evaluate facts leaf = evaluate facts' leaf) →
      evaluateAny facts ps = evaluateAny facts' ps
  | [], _ => rfl
  | p :: ps, h => by
    rw [evaluateAny, evaluateAny,
      evaluate_congr p fun leaf hleaf => h leaf (List.mem_append_left _ hleaf),
      evaluateAny_congr ps fun leaf hleaf => h leaf (List.mem_append_right _ hleaf)]

end

/-- So do rules that are tried one after the other.  Only their predicates are looked at here, not
their identifiers or actions. -/
theorem firstMatch_congr {facts facts' : Facts} : ∀ rules : List Rule,
    (∀ rule ∈ rules, evaluate facts rule.predicate = evaluate facts' rule.predicate) →
      firstMatch facts rules = firstMatch facts' rules
  | [], _ => rfl
  | rule :: rules, h => by
    have hrest := firstMatch_congr rules fun r hr => h r (List.mem_cons_of_mem rule hr)
    rw [firstMatch, firstMatch, h rule List.mem_cons_self, hrest]

/-- **Rules behind one that holds or fails are not tried**, so nothing depends on them.  An error
ends the search as a match does, which is why the hypothesis only excludes the answer no. -/
theorem firstMatch_stops {facts : Facts} {rule : Rule}
    (h : (evaluate facts rule.predicate).outcome ≠ .ok false) (after : List Rule) :
    ∀ before : List Rule,
      firstMatch facts (before ++ rule :: after) = firstMatch facts (before ++ [rule])
  | [] => by
    rcases hrule : (evaluate facts rule.predicate).outcome with m | (_ | _)
    · simp only [List.nil_append, firstMatch, hrule]
    · exact absurd hrule h
    · simp only [List.nil_append, firstMatch, hrule]
  | first :: before => by
    simp only [List.cons_append, firstMatch, firstMatch_stops h after before]

/-! ## 4. Facts that are read -/

mutual

/-- **The facts that are read are those of leaves**, in the order of the leaves and at most once for
each. -/
theorem reads_sublist (facts : Facts) : ∀ p : Predicate,
    (evaluate facts p).reads.Sublist (p.leaves.filterMap Predicate.fact?)
  | .not p => by
    rw [evaluate]
    exact reads_sublist facts p
  | .all ps => by
    rw [evaluate]
    exact readsAll_sublist facts ps
  | .any ps => by
    rw [evaluate]
    exact readsAny_sublist facts ps
  | .addressIs _ | .addressIn _ | .addressListed _ | .fieldIs _ _ | .fieldMatches _ _
  | .hitsAbove _ => List.Sublist.refl _

theorem readsAll_sublist (facts : Facts) : ∀ ps : List Predicate,
    (evaluateAll facts ps).reads.Sublist
      ((Predicate.leavesOf ps).filterMap Predicate.fact?)
  | [] => List.nil_sublist _
  | p :: ps => by
    rw [evaluateAll, Predicate.leavesOf, List.filterMap_append]
    refine Evaluation.reads_andThen_sublist (reads_sublist facts p) ?_
    rintro (_ | _)
    · exact List.nil_sublist _
    · exact readsAll_sublist facts ps

theorem readsAny_sublist (facts : Facts) : ∀ ps : List Predicate,
    (evaluateAny facts ps).reads.Sublist
      ((Predicate.leavesOf ps).filterMap Predicate.fact?)
  | [] => List.nil_sublist _
  | p :: ps => by
    rw [evaluateAny, Predicate.leavesOf, List.filterMap_append]
    refine Evaluation.reads_andThen_sublist (reads_sublist facts p) ?_
    rintro (_ | _)
    · exact readsAny_sublist facts ps
    · exact List.nil_sublist _

end

/-- Rules that are tried read what one of them reads, so a fact that was read can be traced back to
a rule of the list. -/
theorem exists_rule_of_mem_reads {facts : Facts} {fact : Fact} : ∀ rules : List Rule,
    fact ∈ (firstMatch facts rules).reads →
      ∃ rule ∈ rules, fact ∈ (evaluate facts rule.predicate).reads
  | [], h => absurd h List.not_mem_nil
  | rule :: rules, h => by
    have head : fact ∈ (evaluate facts rule.predicate).reads →
        ∃ r ∈ rule :: rules, fact ∈ (evaluate facts r.predicate).reads :=
      fun hfact => ⟨rule, List.mem_cons_self, hfact⟩
    rw [firstMatch] at h
    dsimp only at h
    split at h
    · exact head h
    · exact head h
    · rcases List.mem_append.1 h with h | h
      · exact head h
      · obtain ⟨r, hr, hfact⟩ := exists_rule_of_mem_reads rules h
        exact ⟨r, List.mem_cons_of_mem rule hr, hfact⟩

end Turnstile
