/-
# Three tests of an address

A rule can name an address, a block, or a list of blocks.  The three tests reconcile families each
in its own way: a literal is compared with both families in view, a block looks for the IPv4 address
that an IPv6 address carries, or for both forms of an IPv4 address, and a list takes what its blocks
cannot be tested against for a no.

**A block of full width is its address.**  It has no other address in it
(`Network.contains_of_full`), so it answers for a client as its base does in a comparison, or it
fails (`Block.contains_of_full`).  It fails for IPv6 clients that carry no IPv4 address, and the
comparison says no to these (`Address.same_of_foreign`).

**A list is the disjunction of its blocks**, up to failures.  It holds if some block answers with
yes (`AccessLists.contains_iff`), and so does the disjunction, where it answers
(`answer_any_blocks`).  Neither looks at the order of the blocks, or at how often one is there.
-/
import Turnstile.Proofs.Address.Containment
import Turnstile.Proofs.Evaluation.Mismatch

namespace Turnstile

/-! ## 1. Blocks of full width -/

/-- **A network of full width has one address.**  No bit is left over for the host, so both masks
change nothing. -/
theorem Network.contains_of_full {w : Nat} {n : Network w} (hfull : n.length = w) (a : BitVec w) :
    n.contains a = (n.base == a) := by
  rw [Bool.eq_iff_iff, contains_iff, beq_iff_eq, hfull]
  constructor
  · intro h
    exact (BitVec.eq_of_getMsbD_eq h).symm
  · rintro rfl i -
    rfl

/-- An IPv4 literal differs from every client that carries no IPv4 address, since comparing them as
IPv6 takes the literal's mapped form and the client has none. -/
theorem Address.same_of_foreign {a c : Address} (ha : a.family = .v4) (hc : c.Foreign) :
    a.same c = false := by
  obtain ⟨b, rfl, hnone⟩ := hc
  cases a with
  | v4 q =>
    rw [same, embedded?_eq_none_iff.2 hnone]
    rfl
  | v6 _ => cases ha

namespace Block

theorem irreconcilable_iff {block : Block} {c : Address} :
    block.Irreconcilable c ↔ block.base.family = .v4 ∧ c.Foreign := by
  cases block with
  | v4 n => simp [Irreconcilable, base, Address.family]
  | v6 n => simp [Irreconcilable, base, Address.family]

/-- Each address has a block of full width, since there are no host bits that the reader could
object to. -/
theorem exists_make_full (a : Address) : ∃ block, make a a.family.width = .ok block := by
  obtain ⟨block, hlength, hfamily, hcontains⟩ := exists_holds a (Nat.le_refl _)
  refine ⟨block, make_eq_ok_iff.2 ⟨?_, hlength⟩⟩
  cases block with
  | v4 n =>
    obtain ⟨q, rfl, hq⟩ := holds_v4.1 ⟨hfamily, hcontains⟩
    rw [Network.contains_of_full hlength, beq_iff_eq] at hq
    rw [base, hq]
  | v6 n =>
    obtain ⟨c, rfl, hc⟩ := holds_v6.1 ⟨hfamily, hcontains⟩
    rw [Network.contains_of_full hlength, beq_iff_eq] at hc
    rw [base, hc]

/-- **A block of full width answers as a comparison with its base does**, if it answers.  The
excepted clients are those for which the block's test is an error while the comparison is plainly
false. -/
theorem contains_of_full {block : Block} (hfull : block.length = block.family.width) {c : Address}
    (hc : ¬block.Irreconcilable c) : block.contains c = .ok (block.base.same c) := by
  cases block with
  | v4 n =>
    cases c with
    | v4 q => rw [contains, base, Address.same, Network.contains_of_full hfull]
    | v6 b =>
      rcases hb : Address.embedded? b with _ | q
      · exact absurd ⟨⟨n, rfl⟩, b, rfl, Address.embedded?_eq_none_iff.1 hb⟩ hc
      · simp only [contains, base, Address.same, hb, Network.contains_of_full hfull]
        rw [Option.some_beq_some, BEq.comm]
  | v6 n =>
    cases c with
    | v6 b => rw [contains, base, Address.same, Network.contains_of_full hfull]
    | v4 q =>
      rw [contains, base, Address.same, Network.contains_of_full hfull,
        Network.contains_of_full hfull, Except.ok.injEq, Bool.eq_iff_iff, Bool.or_eq_true,
        beq_iff_eq, beq_iff_eq, beq_iff_eq, Address.embedded?_eq_some_iff, or_comm]

end Block

/-! ## 2. Lists -/

namespace AccessLists

variable {c : Address} {lists : AccessLists} {name : String} {blocks : List Block}

theorem admits_iff {block : Block} : admits c block = true ↔ block.contains c = .ok true := by
  unfold admits
  split
  · next holds h => rw [h, Except.ok.injEq]
  · next m h => simp [h]

/-- A list holds what some block of it takes.  A block that cannot be tested takes nothing here, so
it is the one place where a mismatch is no error. -/
theorem contains_iff (hblocks : lists.get? name = some blocks) :
    lists.contains name c = true ↔ ∃ block ∈ blocks, block.contains c = .ok true := by
  simp only [contains, hblocks, List.any_eq_true, admits_iff]

/-- A list with one block of full width is the address of the block.  No client has to be excepted,
since a list answers no where a block alone would fail. -/
theorem contains_of_full {block : Block} (hfull : block.length = block.family.width)
    (hblock : lists.get? name = some [block]) : lists.contains name c = block.base.same c := by
  rw [Bool.eq_iff_iff, contains_iff hblock]
  simp only [List.mem_singleton, exists_eq_left]
  by_cases hirr : block.Irreconcilable c
  · obtain ⟨hfamily, hforeign⟩ := Block.irreconcilable_iff.1 hirr
    rw [Block.contains_eq_error_iff.2 ⟨hirr, rfl⟩, Address.same_of_foreign hfamily hforeign]
    simp
  · rw [Block.contains_of_full hfull hirr, Except.ok.injEq]

/-- **The blocks that can be tested decide**, in whatever order and number they come.  So neither
sorting a list nor removing what is doubled in it can be seen by a rule. -/
theorem contains_congr {lists' : AccessLists} {name' : String} {blocks' : List Block}
    (hblocks : lists.get? name = some blocks) (hblocks' : lists'.get? name' = some blocks')
    (hmem : ∀ block : Block, ¬block.Irreconcilable c → (block ∈ blocks ↔ block ∈ blocks')) :
    lists.contains name c = lists'.contains name' c := by
  rw [Bool.eq_iff_iff, contains_iff hblocks, contains_iff hblocks']
  refine exists_congr fun block => and_congr_left fun hcontains => hmem block ?_
  exact Block.not_irreconcilable_of_contains_eq_ok hcontains

end AccessLists

/-- Tests of blocks are leaves, each of which stands for itself in the list of leaves. -/
theorem leavesOf_blocks (blocks : List Block) :
    Predicate.leavesOf (blocks.map .addressIn) = blocks.map .addressIn := by
  induction blocks with
  | nil => rfl
  | cons block blocks ih => simp [Predicate.leavesOf, Predicate.leaves, ih]

/-- **What a disjunction of tests of blocks answers**: whether some block takes the client.  It is
only stated where there is an answer, since a disjunction stops with an error at the first block
that cannot be tested. -/
theorem answer_any_blocks {facts : Facts} {blocks : List Block} {answer : Bool}
    (h : (evaluate facts (.any (blocks.map .addressIn))).outcome = .ok answer) :
    answer = true ↔ ∃ block ∈ blocks, block.contains facts.address = .ok true := by
  -- blocks that cannot be tested may be taken for a no
  rw [← truth_of_outcome_ok h fun _ => false, Predicate.truth, Predicate.truths_const,
    List.map_map, List.any_map, List.any_eq_true]
  exact exists_congr fun block => and_congr_right fun _ => AccessLists.admits_iff

/-- It answers if all blocks can be tested.  Without this half the statement above could hold
because nothing is ever answered. -/
theorem exists_answer_any_blocks (facts : Facts) {blocks : List Block}
    (h : ∀ block ∈ blocks, ¬block.Irreconcilable facts.address) :
    ∃ answer, (evaluate facts (.any (blocks.map .addressIn))).outcome = .ok answer := by
  refine ⟨_, outcome_of_reconciled ?_ fun _ => false⟩
  intro block hleaf
  rw [Predicate.leaves, leavesOf_blocks] at hleaf
  obtain ⟨_, hblock, ⟨⟩⟩ := List.mem_map.1 hleaf
  exact h block hblock

/-! ## 3. The three tests -/

/-- **The tests of an address, a block and a list agree.**  Each address has a block of full width.
A client that is compared with the address is looked for in a list of this one block with the same
result, and tested against the block with the same result, unless the address is IPv4 and the client
is IPv6 and carries no IPv4 address: there the block fails, and the other two say no.  A list always
answers, and with yes exactly if some block of it does, so lists with the same blocks agree,
whatever their order, repetitions and irreconcilable blocks.  The disjunction of the blocks of a
list, in any order, gives the answer of the list whenever it gives one, and it does if all blocks
can be tested. -/
theorem address_tests_agree :
    (∀ a : Address, ∃ block, Block.make a a.family.width = .ok block) ∧
    (∀ (a : Address) (block : Block), Block.make a a.family.width = .ok block →
      ∀ (r : Request) (hits : UInt64) (lists : AccessLists) (name : String),
        lists.get? name = some [block] → ∃ holds,
          (evaluate (.ofRequest r hits lists) (.addressIs a)).outcome = .ok holds ∧
          (evaluate (.ofRequest r hits lists) (.addressListed name)).outcome = .ok holds ∧
          (¬(a.family = .v4 ∧ r.address.Foreign) →
            (evaluate (.ofRequest r hits lists) (.addressIn block)).outcome = .ok holds) ∧
          (a.family = .v4 ∧ r.address.Foreign → holds = false ∧
            (evaluate (.ofRequest r hits lists) (.addressIn block)).outcome =
              .error ⟨block, r.address⟩)) ∧
    (∀ (r : Request) (hits : UInt64) (lists : AccessLists) (name : String) (blocks : List Block),
      lists.get? name = some blocks → ∃ holds,
        (evaluate (.ofRequest r hits lists) (.addressListed name)).outcome = .ok holds ∧
        (holds = true ↔ ∃ block ∈ blocks, block.contains r.address = .ok true) ∧
        (∀ (lists' : AccessLists) (name' : String) (blocks' : List Block),
          lists'.get? name' = some blocks' →
          (∀ block : Block, ¬block.Irreconcilable r.address → (block ∈ blocks ↔ block ∈ blocks')) →
            (evaluate (.ofRequest r hits lists') (.addressListed name')).outcome = .ok holds) ∧
        ∀ blocks' : List Block, (∀ block, block ∈ blocks' ↔ block ∈ blocks) →
          (∀ answer, (evaluate (.ofRequest r hits lists)
            (.any (blocks'.map .addressIn))).outcome = .ok answer → answer = holds) ∧
          ((∀ block ∈ blocks, ¬block.Irreconcilable r.address) →
            (evaluate (.ofRequest r hits lists) (.any (blocks'.map .addressIn))).outcome =
              .ok holds)) := by
  refine ⟨Block.exists_make_full, ?_, ?_⟩
  · intro a block hmake r hits lists name hblock
    obtain ⟨rfl, hlength⟩ := Block.make_eq_ok_iff.1 hmake
    have hfull : block.length = block.family.width := by rw [hlength, block.family_base]
    have hlisted := AccessLists.contains_of_full (c := r.address) hfull hblock
    refine ⟨block.base.same r.address, rfl, congrArg Except.ok hlisted, ?_, ?_⟩
    · intro hreconciled
      exact Block.contains_of_full hfull fun hirr => hreconciled (Block.irreconcilable_iff.1 hirr)
    · intro hforeign
      refine ⟨Address.same_of_foreign hforeign.1 hforeign.2, ?_⟩
      exact Block.contains_eq_error_iff.2 ⟨Block.irreconcilable_iff.2 hforeign, rfl⟩
  · intro r hits lists name blocks hblocks
    refine ⟨_, rfl, AccessLists.contains_iff hblocks, ?_, ?_⟩
    · intro lists' name' blocks' hblocks' hmem
      exact congrArg Except.ok (AccessLists.contains_congr hblocks hblocks' hmem).symm
    · intro blocks' hmem
      have hsame : ∀ answer, (evaluate (.ofRequest r hits lists)
          (.any (blocks'.map .addressIn))).outcome = .ok answer →
            answer = lists.contains name r.address := by
        intro answer hanswer
        rw [Bool.eq_iff_iff, answer_any_blocks hanswer, AccessLists.contains_iff hblocks]
        exact exists_congr fun block => and_congr_left fun _ => hmem block
      refine ⟨hsame, fun hreconciled => ?_⟩
      obtain ⟨answer, hanswer⟩ := exists_answer_any_blocks (.ofRequest r hits lists)
        fun block hblock => hreconciled block ((hmem block).1 hblock)
      exact hanswer.trans (congrArg Except.ok (hsame answer hanswer))

/-- The list of `10.0.0.1/32` alone, and one with other blocks and the same one twice.  A guest by
the mapped form of `10.0.0.1` is in both, and a stranger that carries no IPv4 address in neither:
there the disjunction of the blocks fails, as the block does by itself. -/
theorem address_tests_agree_guest :
    ∃ (host tens documentation : Block) (a : Address) (lists : AccessLists)
      (guest stranger : Request),
      a = .v4 0x0A000001#32 ∧ Block.make a 32 = .ok host ∧
      tens.base = .v4 0x0A000000#32 ∧ tens.length = 8 ∧
      documentation.base = .v6 (0x20010DB8#32 ++ 0#96) ∧ documentation.length = 48 ∧
      guest.address = .v6 (Address.mapped 0x0A000001#32) ∧
      stranger.address = .v6 0x20010DB9000000000000000000000001#128 ∧
      lists.get? "host" = some [host] ∧
      lists.get? "mixed" = some [documentation, host, tens, host] ∧
      (evaluate (.ofRequest guest 1 lists) (.addressIn host)).outcome = .ok true ∧
      (evaluate (.ofRequest stranger 1 lists) (.addressIn host)).outcome =
        .error ⟨host, stranger.address⟩ ∧
      (evaluate (.ofRequest stranger 1 lists) (.addressListed "host")).outcome = .ok false ∧
      (evaluate (.ofRequest guest 1 lists) (.addressListed "mixed")).outcome =
        (evaluate (.ofRequest guest 1 lists)
          (.any [.addressIn tens, .addressIn host, .addressIn documentation])).outcome ∧
      (evaluate (.ofRequest stranger 1 lists) (.addressListed "mixed")).outcome = .ok false ∧
      (evaluate (.ofRequest stranger 1 lists)
        (.any [.addressIn tens, .addressIn host, .addressIn documentation])).outcome =
          .error ⟨tens, stranger.address⟩ := by
  obtain ⟨-, hsingle, hlist⟩ := address_tests_agree
  let host : Block := .v4 ⟨0x0A000001#32, 32, by decide, by decide⟩
  let tens : Block := .v4 ⟨0x0A000000#32, 8, by decide, by decide⟩
  let documentation : Block := .v6 ⟨0x20010DB8#32 ++ 0#96, 48, by decide, by decide⟩
  let mixed : List Block := [documentation, host, tens, host]
  let lists : AccessLists := (AccessLists.empty.insert "host" [host]).insert "mixed" mixed
  let guest : Request := .ofAddress (.v6 (Address.mapped 0x0A000001#32))
  let stranger : Request := .ofAddress (.v6 0x20010DB9000000000000000000000001#128)
  have hmake : Block.make (.v4 0x0A000001#32) 32 = .ok host := rfl
  have hhost : lists.get? "host" = some [host] := by decide
  have hmixed : lists.get? "mixed" = some mixed := by decide
  have hforeign : stranger.address.Foreign := ⟨_, rfl, by decide, by decide⟩
  have hguest : ¬guest.address.Foreign := by
    rintro ⟨_, ⟨⟩, hmapped, -⟩
    exact absurd hmapped (by decide)
  obtain ⟨holds, hcompared, -, hblock, -⟩ := hsingle _ _ hmake guest 1 lists "host" hhost
  obtain rfl : true = holds := Except.ok.inj hcompared
  obtain ⟨no, -, hlisted, -, hfails⟩ := hsingle _ _ hmake stranger 1 lists "host" hhost
  obtain ⟨rfl, herror⟩ := hfails ⟨rfl, hforeign⟩
  obtain ⟨yes, hyes, -, -, hany⟩ := hlist guest 1 lists "mixed" mixed hmixed
  have hreordered : ∀ block : Block, block ∈ [tens, host, documentation] ↔ block ∈ mixed := by
    intro block
    simp only [mixed, List.mem_cons, List.not_mem_nil]
    tauto
  refine ⟨host, tens, documentation, .v4 0x0A000001#32, lists, guest, stranger, rfl, hmake, rfl,
    rfl, rfl, rfl, rfl, rfl, hhost, hmixed, hblock fun h => hguest h.2, herror, hlisted, ?_,
    rfl, rfl⟩
  exact hyes.trans ((hany _ hreordered).2 fun block _ hirr => hguest hirr.2).symm

end Turnstile
