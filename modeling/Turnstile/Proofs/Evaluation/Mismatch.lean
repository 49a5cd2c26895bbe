/-
# A mismatch of families never shapes an answer

A leaf that tests an IPv4 block cannot be reconciled with an IPv6 client that carries no IPv4
address.  The evaluation stops with an error when it comes to such a leaf, and the order in which it
comes to leaves is that of ordinary truth values: from left to right, and no further than the first
child that decides.

**One equation says all of it.**  Guess a truth value for each place of the tree, and use the guess
where a leaf is irreconcilable.  `Predicate.truth` is then the ordinary value of the tree, and
`Predicate.visited` the leaves that a left-to-right reading comes to.  Whatever is guessed, the
outcome is the error of the first irreconcilable leaf that is visited, and the value of the tree if
there is none (`outcome_eq`): up to that leaf no guess has been used.

**So an answer depends on no guess.**  It is the value under all of them
(`mismatch_shapes_nothing`), and since the value does not depend on the order of children under a
guess that is the same everywhere, neither do answers: trees that are reordered may fail where the
other answers, but they never contradict each other (`Predicate.Shuffled`).
-/
import Turnstile.Proofs.Evaluation.Tree

namespace Turnstile

/-! ## 1. Irreconcilable leaves -/

/-- An address that IPv4 blocks cannot be tested against: IPv6, and neither mapped nor
compatible. -/
def Address.Foreign (a : Address) : Prop :=
  ∃ b, a = .v6 b ∧ Address.mapped? b = none ∧ Address.compatible? b = none

/-- A block that cannot be reconciled with an address. -/
def Block.Irreconcilable (block : Block) (a : Address) : Prop :=
  (∃ n, block = .v4 n) ∧ a.Foreign

theorem Address.embedded?_eq_none_iff {b : BitVec 128} :
    embedded? b = none ↔ mapped? b = none ∧ compatible? b = none :=
  Option.or_eq_none_iff

namespace Block

variable {block : Block} {a : Address} {m : FamilyMismatch}

/-- **A test fails exactly if block and address cannot be reconciled**, and it names both.
Reconciling goes from IPv4 to IPv6 by the mapped form, and back where the address carries one of the
two forms. -/
theorem contains_eq_error_iff :
    block.contains a = .error m ↔ block.Irreconcilable a ∧ m = ⟨block, a⟩ := by
  unfold Irreconcilable Address.Foreign
  cases block with
  | v4 n =>
    cases a with
    | v4 q => simp [contains]
    | v6 b =>
      rcases hb : Address.embedded? b with _ | q
      · have hnone := Address.embedded?_eq_none_iff.1 hb
        simp [contains, hb, hnone, eq_comm]
      · have hsome : ¬(Address.mapped? b = none ∧ Address.compatible? b = none) := by
          rw [← Address.embedded?_eq_none_iff, hb]
          exact Option.some_ne_none q
        simp [contains, hb, hsome]
  | v6 n => cases a <;> simp [contains]

theorem not_irreconcilable_of_contains_eq_ok {holds : Bool} (h : block.contains a = .ok holds) :
    ¬block.Irreconcilable a := by
  intro hirr
  rw [contains_eq_error_iff.2 ⟨hirr, rfl⟩] at h
  cases h

end Block

namespace Predicate

/-- The block of a leaf that cannot be reconciled with an address. -/
def irreconcilable? (a : Address) : Predicate → Option Block
  | addressIn block => match block.contains a with
    | .ok _ => none
    | .error _ => some block
  | _ => none

theorem irreconcilable?_eq_some_iff {a : Address} {leaf : Predicate} {block : Block} :
    leaf.irreconcilable? a = some block ↔ leaf = addressIn block ∧ block.Irreconcilable a := by
  cases leaf with
  | addressIn b =>
    rcases hb : b.contains a with m | holds
    · have hirr := (Block.contains_eq_error_iff.1 hb).1
      simp only [irreconcilable?, hb, Option.some.injEq, addressIn.injEq]
      constructor
      · rintro rfl
        exact ⟨rfl, hirr⟩
      · rintro ⟨h, -⟩
        exact h
    · have hirr := Block.not_irreconcilable_of_contains_eq_ok hb
      simp only [irreconcilable?, hb, addressIn.injEq]
      constructor
      · rintro ⟨⟩
      · rintro ⟨rfl, h⟩
        exact absurd h hirr
  | _ => simp [irreconcilable?]

/-! ## 2. Truth values -/

/-- A place in a tree: which child to go to, from the root on. -/
abbrev Place := List Nat

mutual

/-- **The ordinary truth value of a tree**, where irreconcilable leaves have the value that is
guessed for their place. -/
def truth (facts : Facts) : Predicate → (Place → Bool) → Bool
  | addressIs a, _ => a.same facts.address
  | addressIn block, guess => match block.contains facts.address with
    | .ok holds => holds
    | .error _ => guess []
  | addressListed list, _ => facts.inList list
  | fieldIs f v, _ => facts.field f == some v
  | fieldMatches f p, _ => (facts.field f).any p.isFullMatch
  | hitsAbove n, _ => n < facts.hits
  | not child, guess => !truth facts child fun place => guess (0 :: place)
  | all children, guess => (truths facts children 0 guess).all id
  | any children, guess => (truths facts children 0 guess).any id

/-- The truth values of children, the first of which has a given number. -/
def truths (facts : Facts) : List Predicate → Nat → (Place → Bool) → List Bool
  | [], _, _ => []
  | p :: ps, i, guess =>
    truth facts p (fun place => guess (i :: place)) :: truths facts ps (i + 1) guess

end

mutual

/-- **The leaves that are come to**, from left to right, where no child is looked at behind the
first that decides. -/
def visited (facts : Facts) : Predicate → (Place → Bool) → List Predicate
  | not child, guess => visited facts child fun place => guess (0 :: place)
  | all children, guess => visitedAll facts children 0 guess
  | any children, guess => visitedAny facts children 0 guess
  | leaf, _ => [leaf]

/-- The leaves that are come to until a child does not hold. -/
def visitedAll (facts : Facts) : List Predicate → Nat → (Place → Bool) → List Predicate
  | [], _, _ => []
  | p :: ps, i, guess =>
    visited facts p (fun place => guess (i :: place)) ++
      if truth facts p fun place => guess (i :: place) then visitedAll facts ps (i + 1) guess
      else []

/-- The leaves that are come to until a child holds. -/
def visitedAny (facts : Facts) : List Predicate → Nat → (Place → Bool) → List Predicate
  | [], _, _ => []
  | p :: ps, i, guess =>
    visited facts p (fun place => guess (i :: place)) ++
      if truth facts p fun place => guess (i :: place) then []
      else visitedAny facts ps (i + 1) guess

end

mutual

theorem visited_subset (facts : Facts) : ∀ (p : Predicate) (guess : Place → Bool),
    p.visited facts guess ⊆ p.leaves
  | not p, _ => visited_subset facts p _
  | all ps, guess => visitedAll_subset facts ps 0 guess
  | any ps, guess => visitedAny_subset facts ps 0 guess
  | addressIs _, _ | addressIn _, _ | addressListed _, _ | fieldIs _ _, _ | fieldMatches _ _, _
  | hitsAbove _, _ => List.Subset.refl _

theorem visitedAll_subset (facts : Facts) : ∀ (ps : List Predicate) (i : Nat)
    (guess : Place → Bool), visitedAll facts ps i guess ⊆ leavesOf ps
  | [], _, _ => List.Subset.refl _
  | p :: ps, i, guess => by
    intro leaf hleaf
    rw [visitedAll] at hleaf
    rcases List.mem_append.1 hleaf with hleaf | hleaf
    · exact List.mem_append_left _ (visited_subset facts p _ hleaf)
    · split at hleaf
      · exact List.mem_append_right _ (visitedAll_subset facts ps (i + 1) guess hleaf)
      · exact absurd hleaf List.not_mem_nil

theorem visitedAny_subset (facts : Facts) : ∀ (ps : List Predicate) (i : Nat)
    (guess : Place → Bool), visitedAny facts ps i guess ⊆ leavesOf ps
  | [], _, _ => List.Subset.refl _
  | p :: ps, i, guess => by
    intro leaf hleaf
    rw [visitedAny] at hleaf
    rcases List.mem_append.1 hleaf with hleaf | hleaf
    · exact List.mem_append_left _ (visited_subset facts p _ hleaf)
    · split at hleaf
      · exact absurd hleaf List.not_mem_nil
      · exact List.mem_append_right _ (visitedAny_subset facts ps (i + 1) guess hleaf)

end

end Predicate

/-! ## 3. The outcome -/

open Predicate (Place)

/-- The outcome that a value has, given the leaves that were come to for it. -/
def settle (a : Address) (visited : List Predicate) (value : Bool) : Except FamilyMismatch Bool :=
  match visited.findSome? (Predicate.irreconcilable? a) with
  | some block => .error ⟨block, a⟩
  | none => .ok value

/-- **What one evaluation behind another comes to.**  The second one is done for the value of the
first, so the leaves of both are come to unless the first one stops. -/
theorem outcome_andThen_settle {a : Address} {e : Evaluation} {next : Bool → Evaluation}
    {front back : List Predicate} {value value' : Bool} (he : e.outcome = settle a front value)
    (hnext : (next value).outcome = settle a back value') :
    (e.andThen next).outcome = settle a (front ++ back) value' := by
  unfold settle at he hnext ⊢
  rw [List.findSome?_append]
  rcases hfront : front.findSome? (Predicate.irreconcilable? a) with _ | block
  · rw [hfront] at he
    rw [Evaluation.outcome_andThen_ok he, hnext]
    rfl
  · rw [hfront] at he
    exact Evaluation.outcome_andThen_error he

mutual

/-- **The outcome is the value, unless an irreconcilable leaf is come to**; then it is the error of
the first one. -/
theorem outcome_eq (facts : Facts) : ∀ (p : Predicate) (guess : Place → Bool),
    (evaluate facts p).outcome = settle facts.address (p.visited facts guess) (p.truth facts guess)
  | .not p, guess => by
    have ih := outcome_eq facts p fun place => guess (0 :: place)
    rw [evaluate, Evaluation.negate, Predicate.visited, Predicate.truth]
    unfold settle at ih ⊢
    dsimp only
    rw [ih]
    split
    · rfl
    · rfl
  | .all ps, guess => by
    rw [evaluate, Predicate.visited, Predicate.truth]
    exact outcome_all_eq facts ps 0 guess
  | .any ps, guess => by
    rw [evaluate, Predicate.visited, Predicate.truth]
    exact outcome_any_eq facts ps 0 guess
  | .addressIn block, guess => by
    change block.contains facts.address =
      settle facts.address [.addressIn block] (Predicate.truth facts (.addressIn block) guess)
    rw [settle, List.findSome?_singleton, Predicate.irreconcilable?, Predicate.truth]
    rcases hb : block.contains facts.address with m | holds
    · exact congrArg Except.error (Block.contains_eq_error_iff.1 hb).2
    · rfl
  | .addressIs _, _ | .addressListed _, _ | .fieldIs _ _, _ | .fieldMatches _ _, _
  | .hitsAbove _, _ => rfl

theorem outcome_all_eq (facts : Facts) : ∀ (ps : List Predicate) (i : Nat)
    (guess : Place → Bool), (evaluateAll facts ps).outcome =
      settle facts.address (Predicate.visitedAll facts ps i guess)
        ((Predicate.truths facts ps i guess).all id)
  | [], _, _ => rfl
  | p :: ps, i, guess => by
    have ihead := outcome_eq facts p fun place => guess (i :: place)
    have itail := outcome_all_eq facts ps (i + 1) guess
    rw [evaluateAll, Predicate.visitedAll, Predicate.truths, List.all_cons]
    refine outcome_andThen_settle ihead ?_
    rcases p.truth facts fun place => guess (i :: place) with _ | _
    · rfl
    · exact itail

theorem outcome_any_eq (facts : Facts) : ∀ (ps : List Predicate) (i : Nat)
    (guess : Place → Bool), (evaluateAny facts ps).outcome =
      settle facts.address (Predicate.visitedAny facts ps i guess)
        ((Predicate.truths facts ps i guess).any id)
  | [], _, _ => rfl
  | p :: ps, i, guess => by
    have ihead := outcome_eq facts p fun place => guess (i :: place)
    have itail := outcome_any_eq facts ps (i + 1) guess
    rw [evaluateAny, Predicate.visitedAny, Predicate.truths, List.any_cons]
    refine outcome_andThen_settle ihead ?_
    rcases p.truth facts fun place => guess (i :: place) with _ | _
    · exact itail
    · rfl

end

/-- An answer is the value under every guess.  Leaves that would fail have not been come to, so what
is guessed for them has no say in it. -/
theorem truth_of_outcome_ok {facts : Facts} {p : Predicate} {holds : Bool}
    (h : (evaluate facts p).outcome = .ok holds) (guess : Place → Bool) :
    p.truth facts guess = holds := by
  rw [outcome_eq facts p guess, settle] at h
  split at h
  · cases h
  · exact Except.ok.inj h

/-- A failure is that of the first irreconcilable leaf that is come to, under every guess.  The
leaves before it can all be tested, so the guess decides nothing up to that point. -/
theorem visited_of_outcome_error {facts : Facts} {p : Predicate} {m : FamilyMismatch}
    (h : (evaluate facts p).outcome = .error m) (guess : Place → Bool) :
    m.address = facts.address ∧ m.block.Irreconcilable facts.address ∧
    ∃ before after, p.visited facts guess = before ++ .addressIn m.block :: after ∧
      ∀ leaf ∈ before, leaf.irreconcilable? facts.address = none := by
  rw [outcome_eq facts p guess, settle] at h
  split at h
  · next block hfirst =>
    obtain rfl := Except.error.inj h
    obtain ⟨before, leaf, after, hvisited, hleaf, hbefore⟩ :=
      List.findSome?_eq_some_iff.1 hfirst
    obtain ⟨rfl, hirr⟩ := Predicate.irreconcilable?_eq_some_iff.1 hleaf
    exact ⟨rfl, hirr, before, after, hvisited, hbefore⟩
  · cases h

/-- Without an irreconcilable leaf there is an answer, and it is the value of the tree: an
evaluation has no other way to fail. -/
theorem outcome_of_reconciled {facts : Facts} {p : Predicate}
    (h : ∀ block, .addressIn block ∈ p.leaves → ¬block.Irreconcilable facts.address)
    (guess : Place → Bool) : (evaluate facts p).outcome = .ok (p.truth facts guess) := by
  have hnone : (p.visited facts guess).findSome? (Predicate.irreconcilable? facts.address) =
      none := by
    rw [List.findSome?_eq_none_iff]
    intro leaf hleaf
    rcases hblock : leaf.irreconcilable? facts.address with _ | block
    · rfl
    · obtain ⟨rfl, hirr⟩ := Predicate.irreconcilable?_eq_some_iff.1 hblock
      exact absurd hirr (h block (Predicate.visited_subset facts p guess hleaf))
  rw [outcome_eq facts p guess, settle, hnone]

/-! ## 4. Children in another order -/

namespace Predicate

/-- **Trees that differ by permuting children**, of any nodes and any number of times. -/
inductive Shuffled : Predicate → Predicate → Prop
  | refl (p : Predicate) : Shuffled p p
  | trans {p q r : Predicate} : Shuffled p q → Shuffled q r → Shuffled p r
  | all {ps qs : List Predicate} : ps.Perm qs → Shuffled (all ps) (all qs)
  | any {ps qs : List Predicate} : ps.Perm qs → Shuffled (any ps) (any qs)
  | inNot {p q : Predicate} : Shuffled p q → Shuffled (not p) (not q)
  | inAll {before after : List Predicate} {p q : Predicate} : Shuffled p q →
    Shuffled (.all (before ++ p :: after)) (.all (before ++ q :: after))
  | inAny {before after : List Predicate} {p q : Predicate} : Shuffled p q →
    Shuffled (.any (before ++ p :: after)) (.any (before ++ q :: after))

/-- With one guess for all places it makes no difference which child stands where, which is what
lets children be permuted. -/
theorem truths_const (facts : Facts) (b : Bool) : ∀ (ps : List Predicate) (i : Nat),
    truths facts ps i (fun _ => b) = ps.map fun p => p.truth facts fun _ => b
  | [], _ => rfl
  | p :: ps, i => by
    rw [truths, truths_const facts b ps (i + 1)]
    rfl

theorem Shuffled.truth_eq {p q : Predicate} (h : Shuffled p q) (facts : Facts) (b : Bool) :
    p.truth facts (fun _ => b) = q.truth facts fun _ => b := by
  induction h with
  | refl _ => rfl
  | trans _ _ ih ih' => exact ih.trans ih'
  | all hperm =>
    rw [truth, truth, truths_const, truths_const]
    exact (hperm.map _).all_eq
  | any hperm =>
    rw [truth, truth, truths_const, truths_const]
    exact (hperm.map _).any_eq
  | inNot _ ih => rw [truth, truth, ih]
  | inAll _ ih =>
    rw [truth, truth, truths_const, truths_const, List.map_append, List.map_append, List.map_cons,
      List.map_cons, ih]
  | inAny _ ih =>
    rw [truth, truth, truths_const, truths_const, List.map_append, List.map_append, List.map_cons,
      List.map_cons, ih]

end Predicate

/-! ## 5. Mismatches -/

/-- An IPv4 address, mapped or compatible forms included, is reconciled with every block.  Such
clients never see a mismatch, whatever the rules. -/
theorem Block.not_irreconcilable {a : Address} (q : BitVec 32)
    (ha : a = .v4 q ∨ a = .v6 (Address.mapped q) ∨ a = .v6 (Address.compatible q))
    (block : Block) : ¬block.Irreconcilable a := by
  rintro ⟨-, b, hb, hmapped, hcompatible⟩
  rcases ha with rfl | rfl | rfl
  · cases hb
  · cases hb
    rw [Address.mapped?_mapped] at hmapped
    cases hmapped
  · cases hb
    rw [Address.compatible?_compatible] at hcompatible
    cases hcompatible

/-- **A mismatch of families never shapes an answer.**  An answer is the ordinary truth value of the
tree whatever the irreconcilable leaves are taken for, each by itself.  A failure names the client
and the block of the first irreconcilable leaf that a reading from left to right comes to, whatever
is guessed; the block is an IPv4 block of the tree, and the client is IPv6 and neither mapped nor
compatible.  If no leaf is irreconcilable, as for every IPv4, mapped or compatible client, there is
an answer.  So trees that differ by the order of children never give two different answers. -/
theorem mismatch_shapes_nothing :
    (∀ (facts : Facts) (p : Predicate) (holds : Bool), (evaluate facts p).outcome = .ok holds →
      ∀ guess : Place → Bool, p.truth facts guess = holds) ∧
    (∀ (facts : Facts) (p : Predicate) (m : FamilyMismatch),
      (evaluate facts p).outcome = .error m →
        m.address = facts.address ∧
        (∃ n, m.block = .v4 n) ∧ .addressIn m.block ∈ p.leaves ∧
        (∃ b, facts.address = .v6 b ∧ Address.mapped? b = none ∧ Address.compatible? b = none) ∧
        ∀ guess : Place → Bool, ∃ before after,
          p.visited facts guess = before ++ .addressIn m.block :: after ∧
          ∀ block, .addressIn block ∈ before → ¬block.Irreconcilable facts.address) ∧
    (∀ (facts : Facts) (p : Predicate),
      (∀ block, .addressIn block ∈ p.leaves → ¬block.Irreconcilable facts.address) →
        ∀ guess : Place → Bool, (evaluate facts p).outcome = .ok (p.truth facts guess)) ∧
    (∀ (a : Address) (q : BitVec 32),
      a = .v4 q ∨ a = .v6 (Address.mapped q) ∨ a = .v6 (Address.compatible q) →
        ∀ block : Block, ¬block.Irreconcilable a) ∧
    (∀ (facts : Facts) (p q : Predicate) (holds holds' : Bool), p.Shuffled q →
      (evaluate facts p).outcome = .ok holds → (evaluate facts q).outcome = .ok holds' →
        holds = holds') := by
  refine ⟨fun facts p holds => truth_of_outcome_ok, ?_, fun facts p => outcome_of_reconciled,
    fun a q => Block.not_irreconcilable q, ?_⟩
  · intro facts p m h
    obtain ⟨haddress, ⟨hblock, hforeign⟩, before, after, hvisited, -⟩ :=
      visited_of_outcome_error h fun _ => true
    refine ⟨haddress, hblock, ?_, hforeign, ?_⟩
    · refine Predicate.visited_subset facts p (fun _ => true) ?_
      rw [hvisited]
      exact List.mem_append_right _ List.mem_cons_self
    · intro guess
      obtain ⟨-, -, before, after, hvisited, hbefore⟩ := visited_of_outcome_error h guess
      refine ⟨before, after, hvisited, ?_⟩
      intro block hmem hirr
      have hnone := hbefore _ hmem
      rw [Predicate.irreconcilable?_eq_some_iff.2 ⟨rfl, hirr⟩] at hnone
      cases hnone
  · intro facts p q holds holds' hshuffled hp hq
    rw [← truth_of_outcome_ok hp fun _ => true, ← truth_of_outcome_ok hq fun _ => true]
    exact hshuffled.truth_eq facts true

/-- A stranger to `10.0.0.0/8` on its first visit: the hit count decides in front of the block, and
behind the block it comes too late.  To a mapped client both orders say the same. -/
theorem mismatch_shapes_nothing_foreign :
    ∃ (tens : Block) (stranger guest : Facts) (p q : Predicate) (m : FamilyMismatch),
      tens.base = .v4 0x0A000000#32 ∧ tens.length = 8 ∧
      stranger.address = .v6 0x20010DB8000000000000000000000001#128 ∧
      guest.address = .v6 (Address.mapped 0x0A000001#32) ∧
      p = .not (.all [.hitsAbove 1, .addressIn tens]) ∧
      q = .not (.all [.addressIn tens, .hitsAbove 1]) ∧
      (evaluate stranger p).outcome = .ok true ∧
      (∀ guess : Place → Bool, p.truth stranger guess = true) ∧
      (evaluate stranger q).outcome = .error m ∧
      m.address = stranger.address ∧ .addressIn m.block ∈ q.leaves ∧
      ∀ guess : Place → Bool, q.truth guest guess = false := by
  obtain ⟨hanswer, hfailure, hreconciled, hguest, hshuffled⟩ := mismatch_shapes_nothing
  let tens : Block := .v4 ⟨0x0A000000#32, 8, by decide, by decide⟩
  let stranger : Facts :=
    .ofRequest (.ofAddress (.v6 0x20010DB8000000000000000000000001#128)) 1 {}
  let guest : Facts := .ofRequest (.ofAddress (.v6 (Address.mapped 0x0A000001#32))) 2 {}
  let p : Predicate := .not (.all [.hitsAbove 1, .addressIn tens])
  let q : Predicate := .not (.all [.addressIn tens, .hitsAbove 1])
  have hfirst : (evaluate stranger p).outcome = .ok true := rfl
  have hlast : (evaluate stranger q).outcome = .error ⟨tens, stranger.address⟩ := rfl
  have hboth : (evaluate guest p).outcome = .ok false := rfl
  obtain ⟨haddress, -, hleaf, -, -⟩ := hfailure _ _ _ hlast
  refine ⟨tens, stranger, guest, p, q, _, rfl, rfl, rfl, rfl, rfl, rfl, hfirst,
    hanswer _ _ _ hfirst, hlast, haddress, hleaf, ?_⟩
  intro guess
  have hmapped : guest.address = .v6 (Address.mapped 0x0A000001#32) := rfl
  have hguest := hguest guest.address _ (.inr (.inl hmapped))
  have hswapped := hreconciled guest q (fun block _ => hguest block) guess
  exact (hshuffled _ _ _ _ _ (.inNot (.all (.swap _ _ _))) hboth hswapped).symm

end Turnstile
