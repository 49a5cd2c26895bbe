/-
# Rewriting trees

Trees may be rewritten as propositions are: a double negation goes, a negation moves through a
conjunction or a disjunction and turns it into the other one, nested nodes of one kind become one
node, and a node with a single child becomes that child.  None of this is seen from outside: the
answer is the same, or the error, and so is what was read for it.

**Why reads are kept.**  The laws are equations of evaluations (`Predicate.Law.evaluate_eq`): none
of them moves a leaf in front of another one, and none adds or drops a leaf.

**Why a law may be used anywhere.**  What a node does with its children depends on their evaluations
only, so a law may be used on a child, on a child of a child, and so on
(`Predicate.Rewritten.evaluate_eq`).

**Normal forms** (sections 2 to 4).  With negations in front of leaves only, no node right below
another one of its kind and no single children there is nothing left to rewrite.  Each tree has one
such form, which it shares with all trees that it can be rewritten into
(`Predicate.rewritten_iff_normalForm_eq`).
-/
import Turnstile.Proofs.Evaluation.Connective

namespace Turnstile

namespace Predicate

/-! ## 1. Laws -/

/-- A law, read from left to right, at the root of a tree. -/
inductive Law : Predicate → Predicate → Prop
  | notNot (p : Predicate) : Law (not (not p)) p
  | notNode (c : Connective) (ps : List Predicate) :
    Law (not (c.node ps)) (c.dual.node (ps.map not))
  | splice (c : Connective) (before ps after : List Predicate) :
    Law (c.node (before ++ c.node ps :: after)) (c.node (before ++ ps ++ after))
  | single (c : Connective) (p : Predicate) : Law (c.node [p]) p

/-- **Trees that can be rewritten into each other**, by the laws in either direction, at any place
and any number of times. -/
inductive Rewritten : Predicate → Predicate → Prop
  | law {p q : Predicate} : Law p q → Rewritten p q
  | refl (p : Predicate) : Rewritten p p
  | symm {p q : Predicate} : Rewritten p q → Rewritten q p
  | trans {p q r : Predicate} : Rewritten p q → Rewritten q r → Rewritten p r
  | inNot {p q : Predicate} : Rewritten p q → Rewritten (not p) (not q)
  | inNode {c : Connective} {before after : List Predicate} {p q : Predicate} : Rewritten p q →
    Rewritten (c.node (before ++ p :: after)) (c.node (before ++ q :: after))

/-- **A law is an equation of evaluations**: outcome and reads are the same on both sides, for all
facts, those that make a leaf fail included. -/
theorem Law.evaluate_eq {p q : Predicate} (h : Law p q) (facts : Facts) :
    evaluate facts p = evaluate facts q := by
  cases h with
  | notNot q => rw [evaluate, evaluate, Evaluation.negate_negate]
  | notNode c ps => rw [evaluate, c.evaluate_map_not]
  | splice c before ps after =>
    rw [c.evaluate_append, c.evaluate_cons, List.append_assoc, c.evaluate_append, c.evaluate_append]
  | single c q => rw [c.evaluate_singleton]

/-- **Rewriting is not seen from outside**: the outcome is the same, and so is what was read for
it. -/
theorem Rewritten.evaluate_eq {p q : Predicate} (h : p.Rewritten q) (facts : Facts) :
    evaluate facts p = evaluate facts q := by
  induction h with
  | law h => exact h.evaluate_eq facts
  | refl _ => rfl
  | symm _ ih => exact ih.symm
  | trans _ _ ih ih' => exact ih.trans ih'
  | inNot _ ih => rw [evaluate, evaluate, ih]
  | @inNode c before after _ _ _ ih =>
    rw [c.evaluate_append, c.evaluate_append, c.evaluate_cons, c.evaluate_cons, ih]

/-- All children may be rewritten, one after the other.  Those in front of the list have been
rewritten already, which is what the induction needs. -/
theorem Rewritten.node_map (c : Connective) {f g : Predicate → Predicate} :
    ∀ (ps before : List Predicate), (∀ p ∈ ps, (f p).Rewritten (g p)) →
      (c.node (before ++ ps.map f)).Rewritten (c.node (before ++ ps.map g))
  | [], _, _ => .refl _
  | p :: ps, before, h => by
    have hhead := h p List.mem_cons_self
    have hrest := node_map c ps (before ++ [g p]) fun q hq => h q (List.mem_cons_of_mem p hq)
    rw [List.append_assoc, List.append_assoc] at hrest
    exact (inNode hhead).trans hrest

end Predicate

/-! ## 2. Joining trees -/

namespace Connective

/-- The trees that a tree joins, if it is a node of this connective; any other tree stands for
itself. -/
def parts : Connective → Predicate → List Predicate
  | all, .all ps => ps
  | any, .any ps => ps
  | _, p => [p]

/-- The node with some children, where one child stands for itself. -/
def join : Connective → List Predicate → Predicate
  | all => .joinAll
  | any => .joinAny

/-- The node that joins some trees, without nodes of its own connective among its children. -/
def flat (c : Connective) (ps : List Predicate) : Predicate :=
  c.join (ps.flatMap c.parts)

/-- What a negation in front of a node makes of its connective. -/
def signed (c : Connective) (negated : Bool) : Connective :=
  if negated then c.dual else c

variable {c : Connective} {p : Predicate} {ps : List Predicate}

@[simp] theorem parts_node (c : Connective) (ps : List Predicate) : c.parts (c.node ps) = ps := by
  cases c with
  | all => rfl
  | any => rfl

theorem parts_of_ne (h : ∀ qs, p ≠ c.node qs) : c.parts p = [p] := by
  cases c with
  | all =>
    cases p with
    | all ps => exact absurd rfl (h ps)
    | _ => rfl
  | any =>
    cases p with
    | any ps => exact absurd rfl (h ps)
    | _ => rfl

/-- A tree is a node of the connective, or it stands for itself when nodes are joined.  The other
connective's nodes are of the second kind. -/
theorem node_or_parts (c : Connective) (p : Predicate) :
    (∃ ps, p = c.node ps) ∨ (∀ qs, p ≠ c.node qs) ∧ c.parts p = [p] := by
  by_cases hnode : ∃ ps, p = c.node ps
  · exact .inl hnode
  · have hne : ∀ qs, p ≠ c.node qs := fun qs hqs => hnode ⟨qs, hqs⟩
    exact .inr ⟨hne, parts_of_ne hne⟩

theorem flatMap_parts_of_ne (h : ∀ p ∈ ps, ∀ qs, p ≠ c.node qs) : ps.flatMap c.parts = ps := by
  induction ps with
  | nil => rfl
  | cons p ps ih =>
    have hhead := h p List.mem_cons_self
    rw [List.flatMap_cons, parts_of_ne hhead, ih fun q hq => h q (List.mem_cons_of_mem p hq)]
    rfl

@[simp] theorem join_singleton (c : Connective) (p : Predicate) : c.join [p] = p := by
  cases c with
  | all => rfl
  | any => rfl

theorem join_of_length (h : ps.length ≠ 1) : c.join ps = c.node ps := by
  match c, ps with
  | all, [] | any, [] | all, _ :: _ :: _ | any, _ :: _ :: _ => rfl
  | _, [_] => exact absurd rfl h

end Connective

namespace Predicate

/-- A node may be rewritten so that its children are joined: each of them that is a node of the same
connective is replaced by its own children. -/
theorem rewritten_flat (c : Connective) : ∀ ps before : List Predicate,
    (c.node (before ++ ps)).Rewritten (c.node (before ++ ps.flatMap c.parts))
  | [], _ => .refl _
  | p :: ps, before => by
    rw [List.flatMap_cons, ← List.append_assoc]
    refine .trans ?_ (rewritten_flat c ps (before ++ c.parts p))
    rcases c.node_or_parts p with ⟨qs, rfl⟩ | ⟨-, hparts⟩
    · rw [Connective.parts_node]
      exact .law (.splice c before qs ps)
    · rw [hparts, List.append_assoc]
      exact .refl _

theorem rewritten_join (c : Connective) (ps : List Predicate) :
    (c.node ps).Rewritten (c.join ps) := by
  by_cases hlength : ps.length = 1
  · obtain ⟨p, rfl⟩ := List.length_eq_one_iff.1 hlength
    rw [Connective.join_singleton]
    exact .law (.single c p)
  · rw [Connective.join_of_length hlength]
    exact .refl _

/-! ## 3. Normal forms -/

/-- **A tree in normal form.**  Negations stand in front of leaves, no node is the child of a node
of the same connective, and none has a single child. -/
inductive Normal : Predicate → Prop
  | leaf {p : Predicate} : p.fact? ≠ none → Normal p
  | notLeaf {p : Predicate} : p.fact? ≠ none → Normal (not p)
  | node (c : Connective) {ps : List Predicate} : ps.length ≠ 1 → (∀ p ∈ ps, Normal p) →
    (∀ p ∈ ps, ∀ qs, p ≠ c.node qs) → Normal (c.node ps)

mutual

/-- A tree, or its negation, in normal form: the negation is handed down to the leaves, and what
comes back is joined. -/
def reduced (negated : Bool) : Predicate → Predicate
  | not p => reduced (!negated) p
  | all ps => (Connective.all.signed negated).flat (reducedList negated ps)
  | any ps => (Connective.any.signed negated).flat (reducedList negated ps)
  | leaf => if negated then not leaf else leaf

/-- The same for several trees. -/
def reducedList (negated : Bool) : List Predicate → List Predicate
  | [] => []
  | p :: ps => reduced negated p :: reducedList negated ps

end

/-- **The flattened negation normal form of a tree.** -/
def normalForm (p : Predicate) : Predicate :=
  p.reduced false

variable {c : Connective} {p q : Predicate} {ps : List Predicate} (negated : Bool)

theorem reducedList_eq_map (ps : List Predicate) :
    reducedList negated ps = ps.map (reduced negated) := by
  induction ps with
  | nil => rfl
  | cons p ps ih => rw [reducedList, List.map_cons, ih]

theorem reduced_node (c : Connective) (ps : List Predicate) :
    (c.node ps).reduced negated = (c.signed negated).flat (ps.map (reduced negated)) := by
  cases c with
  | all => rw [Connective.node, reduced, reducedList_eq_map]
  | any => rw [Connective.node, reduced, reducedList_eq_map]

theorem reduced_leaf (h : p.fact? ≠ none) :
    p.reduced negated = if negated then not p else p := by
  cases p with
  | not _ | all _ | any _ => exact absurd rfl h
  | _ => rfl

/-- What is known of the children of a node in normal form: they are not exactly one, they are in
normal form, and none is a node of the same connective. -/
theorem Normal.children (h : (c.node ps).Normal) :
    ps.length ≠ 1 ∧ (∀ p ∈ ps, p.Normal) ∧ ∀ p ∈ ps, ∀ qs, p ≠ c.node qs := by
  generalize hnode : c.node ps = p at h
  cases h with
  | leaf hleaf =>
    rw [← hnode, c.fact?_node] at hleaf
    exact absurd rfl hleaf
  | notLeaf _ => exact absurd hnode (c.node_ne_not ps _)
  | node d hlength hnormal hflat =>
    obtain ⟨rfl, rfl⟩ := Connective.node_inj hnode
    exact ⟨hlength, hnormal, hflat⟩

/-- The parts of a tree in normal form are in normal form, and they have no parts but themselves. -/
theorem Normal.parts (h : p.Normal) (c : Connective) :
    ∀ q ∈ c.parts p, q.Normal ∧ ∀ qs, q ≠ c.node qs := by
  rcases c.node_or_parts p with ⟨ps, rfl⟩ | ⟨hne, hparts⟩
  · obtain ⟨-, hnormal, hflat⟩ := h.children
    rw [Connective.parts_node]
    exact fun q hq => ⟨hnormal q hq, hflat q hq⟩
  · rw [hparts]
    intro q hq
    rw [List.mem_singleton.1 hq]
    exact ⟨h, hne⟩

/-- **Trees in normal form are joined to one in normal form**, and their parts are its parts.  The
two are proved together, since the first needs to know which parts there are. -/
theorem normal_flat (c : Connective) (h : ∀ p ∈ ps, p.Normal) :
    (c.flat ps).Normal ∧ c.parts (c.flat ps) = ps.flatMap c.parts := by
  have hparts : ∀ q ∈ ps.flatMap c.parts, q.Normal ∧ ∀ qs, q ≠ c.node qs := by
    intro q hq
    obtain ⟨p, hp, hq⟩ := List.mem_flatMap.1 hq
    exact (h p hp).parts c q hq
  rw [Connective.flat]
  by_cases hlength : (ps.flatMap c.parts).length = 1
  · obtain ⟨q, hq⟩ := List.length_eq_one_iff.1 hlength
    rw [hq] at hparts ⊢
    obtain ⟨hnormal, hne⟩ := hparts q List.mem_cons_self
    rw [Connective.join_singleton]
    exact ⟨hnormal, Connective.parts_of_ne hne⟩
  · rw [Connective.join_of_length hlength, Connective.parts_node]
    exact ⟨.node c hlength (fun q hq => (hparts q hq).1) fun q hq => (hparts q hq).2, rfl⟩

/-- **Reduction ends in a normal form**, whichever sign it is started with; the sign is what pushes
negations down to the leaves. -/
theorem normal_reduced (p : Predicate) : ∀ negated : Bool, (p.reduced negated).Normal := by
  induction p using Predicate.induction with
  | leaf p h =>
    rintro (_ | _)
    · rw [reduced_leaf false h]
      exact .leaf h
    · rw [reduced_leaf true h]
      exact .notLeaf h
  | not p ih =>
    intro negated
    exact ih (!negated)
  | node c ps ih =>
    intro negated
    rw [reduced_node]
    refine (normal_flat _ ?_).1
    rw [List.forall_mem_map]
    exact fun p hp => ih p hp negated

/-- **Reduction is rewriting**: the tree, negated or not as the sign says, and what it is reduced to
are joined by steps of the laws. -/
theorem rewritten_reduced (p : Predicate) :
    ∀ negated : Bool, (if negated then not p else p).Rewritten (p.reduced negated) := by
  induction p using Predicate.induction with
  | leaf p h =>
    intro negated
    rw [reduced_leaf negated h]
    exact .refl _
  | not p ih =>
    rintro (_ | _)
    · exact ih true
    · exact (Rewritten.law (.notNot p)).trans (ih false)
  | node c ps ih =>
    intro negated
    have hflat : ∀ (d : Connective) (qs : List Predicate), (d.node qs).Rewritten (d.flat qs) :=
      fun d qs => (rewritten_flat d qs []).trans (rewritten_join d _)
    rw [reduced_node]
    refine .trans ?_ (hflat _ _)
    cases negated with
    | false =>
      have hchildren : (c.node (ps.map fun p => p)).Rewritten (c.node (ps.map (reduced false))) :=
        Rewritten.node_map c ps [] fun p hp => ih p hp false
      rw [List.map_id'] at hchildren
      exact hchildren
    | true =>
      have hchildren : (c.dual.node (ps.map not)).Rewritten (c.dual.node (ps.map (reduced true))) :=
        Rewritten.node_map c.dual ps [] fun p hp => ih p hp true
      exact (Rewritten.law (.notNode c ps)).trans hchildren

/-! ## 4. Each tree has one normal form -/

/-- What is joined may have been joined before.  So a law that regroups children is not seen by
reduction. -/
theorem flat_splice (c : Connective) (h : ∀ p ∈ ps, p.Normal) (before after : List Predicate) :
    c.flat (before ++ c.flat ps :: after) = c.flat (before ++ ps ++ after) := by
  have hparts := (normal_flat c h).2
  have hall : (before ++ c.flat ps :: after).flatMap c.parts =
      (before ++ ps ++ after).flatMap c.parts := by
    rw [List.flatMap_append, List.flatMap_cons, hparts, List.flatMap_append, List.flatMap_append,
      List.append_assoc]
  rw [Connective.flat, hall, ← Connective.flat]

/-- A single tree in normal form is joined with nothing, so a node with one child is reduced to the
child. -/
theorem flat_singleton (c : Connective) (h : p.Normal) : c.flat [p] = p := by
  rw [Connective.flat, List.flatMap_singleton]
  rcases c.node_or_parts p with ⟨ps, rfl⟩ | ⟨-, hparts⟩
  · rw [Connective.parts_node, Connective.join_of_length h.children.1]
  · rw [hparts, Connective.join_singleton]

/-- **A tree in normal form is its own normal form**, so there is only one that a tree can be
rewritten to. -/
theorem Normal.normalForm_eq (h : p.Normal) : p.normalForm = p := by
  rw [normalForm]
  induction h with
  | leaf h => exact reduced_leaf false h
  | notLeaf h => exact reduced_leaf true h
  | @node c ps hlength _ hflat ih =>
    have hchildren : ps.map (reduced false) = ps := by
      rw [List.map_congr_left ih, List.map_id']
    rw [reduced_node, hchildren]
    exact (congrArg c.join (Connective.flatMap_parts_of_ne hflat)).trans
      (Connective.join_of_length hlength)

/-- **Neither side of a law is told from the other by reduction.**  This is the step from single
laws to their congruence closure. -/
theorem Law.reduced_eq (h : Law p q) : p.reduced negated = q.reduced negated := by
  cases h with
  | notNot p => rw [reduced, reduced, Bool.not_not]
  | notNode c ps =>
    have hsigned : c.dual.signed negated = c.signed !negated := by
      cases negated with
      | false => rfl
      | true => exact c.dual_dual
    rw [reduced, reduced_node, reduced_node, hsigned, List.map_map]
    rfl
  | splice c before ps after =>
    have hnormal : ∀ p ∈ ps.map (reduced negated), p.Normal := by
      rw [List.forall_mem_map]
      exact fun p _ => normal_reduced p negated
    rw [reduced_node, reduced_node, List.map_append, List.map_cons, reduced_node,
      flat_splice _ hnormal, List.map_append, List.map_append]
  | single c _ =>
    rw [reduced_node]
    exact flat_singleton _ (normal_reduced _ negated)

theorem Rewritten.reduced_eq (h : p.Rewritten q) :
    ∀ negated : Bool, p.reduced negated = q.reduced negated := by
  induction h with
  | law h => exact fun negated => h.reduced_eq negated
  | refl _ => exact fun _ => rfl
  | symm _ ih => exact fun negated => (ih negated).symm
  | trans _ _ ih ih' => exact fun negated => (ih negated).trans (ih' negated)
  | inNot _ ih => exact fun negated => ih !negated
  | inNode _ ih =>
    intro negated
    rw [reduced_node, reduced_node, List.map_append, List.map_append, List.map_cons, List.map_cons,
      ih negated]

theorem rewritten_normalForm (p : Predicate) : p.Rewritten p.normalForm :=
  rewritten_reduced p false

/-- **Trees can be rewritten into each other exactly if they have the same normal form**, which
makes the question one that can be computed. -/
theorem rewritten_iff_normalForm_eq : p.Rewritten q ↔ p.normalForm = q.normalForm := by
  constructor
  · exact fun h => h.reduced_eq false
  · intro h
    have hp := rewritten_normalForm p
    rw [h] at hp
    exact hp.trans (rewritten_normalForm q).symm

end Predicate

/-! ## 5. Rewriting is exact -/

/-- **Rewriting is exact, with errors and reads.**  Trees that can be rewritten into each other have
the same outcome, an answer or the same error, after the same reads.  Rewriting takes each tree to
its flattened negation normal form, and to no other tree in normal form; that form is evaluated as
the tree is. -/
theorem rewriting_exact :
    (∀ p q : Predicate, p.Rewritten q → ∀ facts : Facts,
      (evaluate facts p).outcome = (evaluate facts q).outcome ∧
      (evaluate facts p).reads = (evaluate facts q).reads) ∧
    (∀ p : Predicate, p.Rewritten p.normalForm ∧ p.normalForm.Normal ∧
      ∀ q : Predicate, p.Rewritten q → q.Normal → q = p.normalForm) ∧
    (∀ (p : Predicate) (facts : Facts),
      (evaluate facts p.normalForm).outcome = (evaluate facts p).outcome ∧
      (evaluate facts p.normalForm).reads = (evaluate facts p).reads) := by
  refine ⟨?_, ?_, ?_⟩
  · intro p q h facts
    rw [h.evaluate_eq facts]
    exact ⟨rfl, rfl⟩
  · intro p
    refine ⟨p.rewritten_normalForm, p.normal_reduced false, ?_⟩
    intro q h hq
    rw [Predicate.rewritten_iff_normalForm_eq.1 h, hq.normalForm_eq]
  · intro p facts
    rw [p.rewritten_normalForm.evaluate_eq facts]
    exact ⟨rfl, rfl⟩

/-- A stranger to `10.0.0.0/8` on its first visit, and a tree with a double negation, single
children, an empty conjunction and a disjunction in a disjunction.  The hit count is read first in
either form, and then the address, for which the block is an error. -/
theorem rewriting_exact_stranger :
    ∃ (tens : Block) (stranger : Facts) (p q : Predicate),
      tens.base = .v4 0x0A000000#32 ∧ tens.length = 8 ∧
      stranger.address = .v6 0x20010DB8000000000000000000000001#128 ∧
      p = .not (.all [.not (.any [.hitsAbove 1]), .all [],
        .any [.any [.addressIn tens, .fieldIs .host "a"], .addressListed "b"]]) ∧
      q = .any [.hitsAbove 1,
        .all [.not (.addressIn tens), .not (.fieldIs .host "a"), .not (.addressListed "b")]] ∧
      p.Rewritten q ∧ q.Normal ∧
      (evaluate stranger p).outcome = .error ⟨tens, stranger.address⟩ ∧
      (evaluate stranger p).reads = [.hits, .address] ∧
      (evaluate stranger q).outcome = .error ⟨tens, stranger.address⟩ ∧
      (evaluate stranger q).reads = [.hits, .address] := by
  obtain ⟨hrewritten, hnormal, -⟩ := rewriting_exact
  let tens : Block := .v4 ⟨0x0A000000#32, 8, by decide, by decide⟩
  let stranger : Facts :=
    .ofRequest (.ofAddress (.v6 0x20010DB8000000000000000000000001#128)) 1 {}
  let p : Predicate := .not (.all [.not (.any [.hitsAbove 1]), .all [],
    .any [.any [.addressIn tens, .fieldIs .host "a"], .addressListed "b"]])
  let q : Predicate := .any [.hitsAbove 1,
    .all [.not (.addressIn tens), .not (.fieldIs .host "a"), .not (.addressListed "b")]]
  have hform : p.normalForm = q := rfl
  obtain ⟨hpq, hq, -⟩ := hnormal p
  rw [hform] at hpq hq
  have hp : (evaluate stranger p).outcome = .error ⟨tens, stranger.address⟩ ∧
      (evaluate stranger p).reads = [.hits, .address] := ⟨rfl, rfl⟩
  obtain ⟨houtcome, hreads⟩ := hrewritten p q hpq stranger
  exact ⟨tens, stranger, p, q, rfl, rfl, rfl, rfl, rfl, hpq, hq, hp.1, hp.2,
    houtcome.symm.trans hp.1, hreads.symm.trans hp.2⟩

end Turnstile
