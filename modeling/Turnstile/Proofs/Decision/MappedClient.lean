/-
# A client by its mapped address

An IPv4 client may come by its own address or by the mapped form of it.  The hit table folds the two
into one client; what rules make of them is decided at the leaves that test the address.

**Where the two are told apart.**  A leaf says the same of both, and never fails, unless it names
the compatible form or has an IPv6 block that takes the compatible form and not the mapped one
(`leaf_mapped`).  Then it holds for the IPv4 address, which is looked for in both forms, and not for
the mapped one.  Some IPv4 address is told apart by a block exactly if the block is longer than 80
bits and begins with zeros, up to the first 96 bits (`Block.separates_iff`).

**Where they are not.**  Rules and lists without such literals and blocks cannot tell the two apart,
so in any run of requests each may come in place of the other (`mapped_client_same`).
-/
import Mathlib.Data.List.Forall2
import Turnstile.Proofs.Address.Network
import Turnstile.Proofs.Decision.FirstMatch
import Turnstile.Proofs.Evaluation.Tree

namespace Turnstile

open Address (mapped compatible)

/-! ## 1. Literals and blocks -/

/-- **A literal finds an IPv4 address in both of its IPv6 forms**, and the mapped form in itself. -/
theorem Address.same_v4 (a : Address) (q : BitVec 32) :
    a.same (.v4 q) = (a.same (.v6 (mapped q)) || a == .v6 (compatible q)) := by
  cases a with
  | v4 p =>
    rw [Bool.eq_iff_iff]
    simp only [same, embedded?_mapped, Bool.or_eq_true, beq_iff_eq, Option.some.injEq,
      reduceCtorEq, or_false]
    exact eq_comm
  | v6 b =>
    rw [Bool.eq_iff_iff]
    simp [same, embedded?_eq_some_iff]

/-- The network `::/96` of all compatible forms. -/
def Address.compatibles : Network 128 := ⟨0#128, 96, by decide, by decide⟩

theorem Address.contains_compatibles (q : BitVec 32) :
    compatibles.contains (compatible q) = true := by
  rw [Network.contains_iff]
  intro i hi
  have hlt : i < 96 := hi
  rw [getMsbD_compatible, if_neg (by omega)]
  exact BitVec.getMsbD_zero.symm

namespace Block

/-- A block that takes the compatible form of an IPv4 address and not the mapped form. -/
def Separates (block : Block) (q : BitVec 32) : Prop :=
  ∃ n, block = .v6 n ∧ n.contains (compatible q) = true ∧ n.contains (mapped q) = false

/-- An IPv6 block that is longer than 80 bits and begins with zeros, up to the first 96 bits. -/
def Separating (block : Block) : Prop :=
  ∃ n, block = .v6 n ∧ 80 < n.length ∧ ∀ i < min n.length 96, n.base.getMsbD i = false

/-- **Which blocks tell some IPv4 address from its mapped form**: those of IPv6 whose shared bits
reach into the sixteen that the two forms differ in. -/
theorem separates_iff {block : Block} : (∃ q, block.Separates q) ↔ block.Separating := by
  constructor
  · rintro ⟨q, n, rfl, hcompatible, hmapped⟩
    rw [Network.contains_iff] at hcompatible
    rw [← Bool.not_eq_true, Network.contains_iff] at hmapped
    obtain ⟨i, hi⟩ := Classical.not_forall.1 hmapped
    obtain ⟨hlt, hbit⟩ := Classical.not_imp.1 hi
    -- the two forms differ at some bit of the block, so it reaches behind the eightieth
    have hrange : 80 ≤ i := by
      refine Nat.not_lt.1 fun hlow => hbit ?_
      rw [Address.getMsbD_mapped_eq_compatible (.inl hlow)]
      exact hcompatible i hlt
    refine ⟨n, rfl, by omega, ?_⟩
    intro j hj
    rw [← hcompatible j (by omega), Address.getMsbD_compatible, if_neg (by omega)]
  · rintro ⟨n, rfl, hlength, hzero⟩
    obtain ⟨q, hq⟩ := Address.exists_compatible hzero
    refine ⟨q, n, rfl, (n.contains_iff _).2 hq, ?_⟩
    rw [← Bool.not_eq_true, Network.contains_iff]
    intro hmapped
    have hbit := hmapped 80 hlength
    rw [hzero 80 (by omega), Address.getMsbD_mapped, if_neg (by decide)] at hbit
    exact absurd hbit (by decide)

/-- **A block says the same of an IPv4 address as of its mapped form**, or takes the compatible form
alone. -/
theorem contains_v4 (block : Block) (q : BitVec 32) :
    ∃ holds holds', block.contains (.v4 q) = .ok holds ∧
      block.contains (.v6 (mapped q)) = .ok holds' ∧
      (holds = true ↔ holds' = true ∨ block.Separates q) ∧
      (block.Separates q → holds' = false) := by
  cases block with
  | v4 n =>
    have hnone : ¬(Block.v4 n).Separates q := by
      rintro ⟨m, h, -⟩
      cases h
    refine ⟨n.contains q, n.contains q, rfl, ?_, ?_, fun h => absurd h hnone⟩
    · rw [contains, Address.embedded?_mapped]
    · simp [hnone]
  | v6 n =>
    have hiff : (Block.v6 n).Separates q ↔
        n.contains (compatible q) = true ∧ n.contains (mapped q) = false := by
      constructor
      · rintro ⟨m, ⟨⟩, h⟩
        exact h
      · exact fun h => ⟨n, rfl, h⟩
    refine ⟨_, _, rfl, rfl, ?_, fun h => (hiff.1 h).2⟩
    rw [hiff, Bool.or_eq_true]
    cases n.contains (mapped q) <;> simp

end Block

/-! ## 2. Lists and leaves -/

namespace AccessLists

variable {lists : AccessLists} {name : String} {q : BitVec 32}

/-- A list whose answer turns on a block that takes the compatible form and not the mapped one. -/
def Separates (lists : AccessLists) (name : String) (q : BitVec 32) : Prop :=
  ∃ blocks, lists.get? name = some blocks ∧ (∃ block ∈ blocks, block.Separates q) ∧
    ∀ block ∈ blocks, admits (.v6 (mapped q)) block = false

theorem admits_v4 (block : Block) (q : BitVec 32) :
    admits (.v4 q) block = true ↔
      admits (.v6 (mapped q)) block = true ∨ block.Separates q := by
  obtain ⟨holds, holds', h, h', hiff, -⟩ := block.contains_v4 q
  rw [admits, admits, h, h']
  exact hiff

theorem contains_v4 : lists.contains name (.v4 q) = true ↔
    lists.contains name (.v6 (mapped q)) = true ∨ lists.Separates name q := by
  unfold contains Separates
  rcases lists.get? name with _ | blocks
  · simp
  · simp only [List.any_eq_true, Option.some.injEq, exists_eq_left']
    constructor
    · rintro ⟨block, hblock, h⟩
      by_cases hmapped : ∃ b ∈ blocks, admits (.v6 (mapped q)) b = true
      · exact .inl hmapped
      · have hnone : ∀ b ∈ blocks, admits (.v6 (mapped q)) b = false := by
          simpa using hmapped
        rcases (admits_v4 block q).1 h with h | h
        · exact absurd ⟨block, hblock, h⟩ hmapped
        · exact .inr ⟨⟨block, hblock, h⟩, hnone⟩
    · rintro (⟨block, hblock, h⟩ | ⟨⟨block, hblock, h⟩, -⟩)
      · exact ⟨block, hblock, (admits_v4 block q).2 (.inl h)⟩
      · exact ⟨block, hblock, (admits_v4 block q).2 (.inr h)⟩

theorem Separates.contains_mapped (h : lists.Separates name q) :
    lists.contains name (.v6 (mapped q)) = false := by
  obtain ⟨blocks, hblocks, -, hnone⟩ := h
  rw [contains, hblocks]
  exact List.any_eq_false.2 fun block hblock => by rw [hnone block hblock]; decide

end AccessLists

namespace Predicate

/-- Whether a leaf tests the address. -/
def testsAddress : Predicate → Bool
  | addressIs _ | addressIn _ | addressListed _ => true
  | _ => false

/-- **A leaf whose answer turns on the form of an IPv4 address**: it names the compatible form, or
has a block that takes the compatible form and not the mapped one. -/
def Separates (lists : AccessLists) (q : BitVec 32) : Predicate → Prop
  | addressIs a => a = .v6 (compatible q)
  | addressIn block => block.Separates q
  | addressListed name => lists.Separates name q
  | _ => False

end Predicate

/-- The facts of a request from another address. -/
def Facts.readdressed (r : Request) (a : Address) (hits : UInt64) (lists : AccessLists) : Facts :=
  .ofRequest { r with address := a } hits lists

/-- **A leaf answers an IPv4 address and its mapped form alike, unless it turns on the form.**  Then
it holds for the IPv4 address and not for the mapped form. -/
theorem leaf_mapped {leaf : Predicate} (h : leaf.testsAddress = true) (r : Request) (hits : UInt64)
    (lists : AccessLists) (q : BitVec 32) : ∃ holds holds',
      (evaluate (.readdressed r (.v4 q) hits lists) leaf).outcome = .ok holds ∧
      (evaluate (.readdressed r (.v6 (mapped q)) hits lists) leaf).outcome = .ok holds' ∧
      (holds = true ↔ holds' = true ∨ leaf.Separates lists q) ∧
      (leaf.Separates lists q → holds' = false) := by
  cases leaf with
  | addressIs a =>
    refine ⟨_, _, rfl, rfl, ?_, ?_⟩
    · change a.same (.v4 q) = true ↔ a.same (.v6 (mapped q)) = true ∨ a = .v6 (compatible q)
      rw [Address.same_v4, Bool.or_eq_true, beq_iff_eq]
    · rintro rfl
      exact beq_eq_false_iff_ne.2 fun h => by
        have hnone := Address.mapped?_compatible q
        rw [h, Address.mapped?_mapped] at hnone
        cases hnone
  | addressIn block => exact block.contains_v4 q
  | addressListed name =>
    exact ⟨_, _, rfl, rfl, AccessLists.contains_v4, AccessLists.Separates.contains_mapped⟩
  | _ => cases h

/-! ## 3. Rules that cannot tell -/

/-- Whether a leaf names an IPv6 address in `::/96`, or has a block that separates some address from
its mapped form. -/
def Predicate.Telling : Predicate → Prop
  | addressIs a => ∃ b, a = .v6 b ∧ Address.compatibles.contains b = true
  | addressIn block => block.Separating
  | _ => False

/-- Rules without such leaves. -/
def Indifferent (rules : List Rule) : Prop :=
  ∀ rule ∈ rules, ∀ leaf ∈ rule.predicate.leaves, ¬leaf.Telling

/-- Lists without such blocks. -/
def AccessLists.Indifferent (lists : AccessLists) : Prop :=
  ∀ name blocks, lists.get? name = some blocks → ∀ block ∈ blocks, ¬block.Separating

/-- Calls that bring no such leaves with them. -/
def Call.Indifferent : Call → Prop
  | .decide rules _ | .action rules _ => Turnstile.Indifferent rules
  | _ => True

/-- What turns on the form of an address can be seen without the address, in the tree and in the
lists. -/
theorem Predicate.not_separates {leaf : Predicate} {lists : AccessLists} (h : ¬leaf.Telling)
    (hlists : lists.Indifferent) (q : BitVec 32) : ¬leaf.Separates lists q := by
  cases leaf with
  | addressIs a =>
    rintro rfl
    exact h ⟨_, rfl, Address.contains_compatibles q⟩
  | addressIn block => exact fun hq => h (Block.separates_iff.1 ⟨q, hq⟩)
  | addressListed name =>
    rintro ⟨blocks, hblocks, ⟨block, hblock, hq⟩, -⟩
    exact hlists name blocks hblocks block hblock (Block.separates_iff.1 ⟨q, hq⟩)
  | _ => exact id

/-- Two addresses of one client: the same, or an IPv4 address and its mapped form. -/
inductive Address.Alias : Address → Address → Prop
  | refl (a : Address) : Alias a a
  | widen (q : BitVec 32) : Alias (.v4 q) (.v6 (mapped q))
  | narrow (q : BitVec 32) : Alias (.v6 (mapped q)) (.v4 q)

theorem Address.canonical_mapped (q : BitVec 32) :
    (Address.v6 (mapped q)).canonical = (Address.v4 q).canonical := by
  simp only [canonical, mapped?_mapped]

theorem Address.Alias.canonical_eq {a a' : Address} (h : Alias a a') :
    a.canonical = a'.canonical := by
  cases h with
  | refl _ => rfl
  | widen q => exact (canonical_mapped q).symm
  | narrow q => exact canonical_mapped q

section Forms

variable {lists : AccessLists} {a a' : Address}

/-- **A tree none of whose leaves turns on the form** is evaluated alike, with what it reads.
Leaves are the only places where the address is looked at. -/
theorem evaluate_mapped {p : Predicate} {q : BitVec 32}
    (h : ∀ leaf ∈ p.leaves, ¬leaf.Separates lists q) (r : Request) (hits : UInt64) :
    evaluate (.readdressed r (.v4 q) hits lists) p =
      evaluate (.readdressed r (.v6 (mapped q)) hits lists) p := by
  refine evaluate_congr p ?_
  intro leaf hleaf
  rcases htest : leaf.testsAddress with _ | _
  · cases leaf with
    | addressIs _ | addressIn _ | addressListed _ => cases htest
    | not _ | all _ | any _ => exact absurd rfl (Predicate.fact?_ne_none_of_mem_leaves hleaf)
    | fieldIs _ _ | fieldMatches _ _ | hitsAbove _ => rfl
  · obtain ⟨holds, holds', hv4, hmapped, hiff, -⟩ := leaf_mapped htest r hits lists q
    have hsame : holds = holds' := by
      rw [Bool.eq_iff_iff, hiff, or_iff_left (h leaf hleaf)]
    have houtcome := hv4.trans ((congrArg Except.ok hsame).trans hmapped.symm)
    cases leaf with
    | addressIs _ | addressIn _ | addressListed _ =>
      exact congrArg (Evaluation.mk · _) houtcome
    | _ => cases htest

theorem evaluate_alias {p : Predicate} (h : ∀ leaf ∈ p.leaves, ¬leaf.Telling)
    (hlists : lists.Indifferent) (ha : a.Alias a') (r : Request) (hits : UInt64) :
    evaluate (.readdressed r a hits lists) p = evaluate (.readdressed r a' hits lists) p := by
  have hform : ∀ q, evaluate (.readdressed r (.v4 q) hits lists) p =
      evaluate (.readdressed r (.v6 (mapped q)) hits lists) p :=
    fun q => evaluate_mapped
      (fun leaf hleaf => Predicate.not_separates (h leaf hleaf) hlists q) r hits
  cases ha with
  | refl _ => rfl
  | widen q => exact hform q
  | narrow q => exact (hform q).symm

end Forms

/-! ## 4. Runs -/

namespace HitTable

variable {a a' : Address}

theorem change_congr (t : HitTable) (h : a.canonical = a'.canonical) (f : Tally → Tally) :
    t.change a f = t.change a' f := by
  rw [change, change, tally_congr h, h]

theorem recordHit_congr (t : HitTable) (h : a.canonical = a'.canonical) :
    t.recordHit a = t.recordHit a' := by
  rw [recordHit_eq, recordHit_eq, tally_congr h, change_congr t h]

theorem recordMatch_congr (t : HitTable) (h : a.canonical = a'.canonical) (rule : RuleId) :
    t.recordMatch a rule = t.recordMatch a' rule := by
  rw [recordMatch_eq, recordMatch_eq, change_congr t h]

end HitTable

/-- Calls that are the same but for the form of the client's address. -/
inductive Call.Alias : Call → Call → Prop
  | refl (c : Call) : Alias c c
  | decide (rules : List Rule) (r : Request) {a : Address} : r.address.Alias a →
    Alias (.decide rules r) (.decide rules { r with address := a })
  | action (rules : List Rule) (r : Request) {a : Address} : r.address.Alias a →
    Alias (.action rules r) (.action rules { r with address := a })
  | serve (r : Request) {a : Address} : r.address.Alias a →
    Alias (.serve r) (.serve { r with address := a })

namespace Gate

/-- **One decision**: the same result, and the same gate behind it, since the table knows the client
by its canonical address. -/
theorem decide_alias {g : Gate} {rules : List Rule} (hrules : Indifferent rules)
    (hlists : g.lists.Indifferent) (r : Request) {a : Address} (ha : r.address.Alias a) :
    g.decide rules r = g.decide rules { r with address := a } := by
  have hhit := g.table.recordHit_congr ha.canonical_eq
  have hfirst : ∀ hits, firstMatch (.ofRequest r hits g.lists) rules =
      firstMatch (.ofRequest { r with address := a } hits g.lists) rules :=
    fun hits => firstMatch_congr rules fun rule hrule =>
      evaluate_alias (hrules rule hrule) hlists ha r hits
  simp only [decide, hhit, hfirst, HitTable.recordMatch_congr _ ha.canonical_eq]

theorem perform_lists (g : Gate) (c : Call) : (g.perform c).2.lists = g.lists := by
  cases c with
  | decide rules r | action rules r => exact (congrArg lists (g.decides rules r).rest :)
  | serve r => exact (congrArg lists (g.decides g.active.rules r).rest :)
  | newRule id text => exact (newRule_agrees g id text).lists
  | compile configs => exact (compile_agrees g configs).lists
  | reload configs => exact (reload_agrees g configs).lists
  | store _ | sweep _ | sweepOnTime _ | elapse _ => rfl

/-- **One call**, with the rules that are active written into it, as the hypothesis is about those
that decide. -/
theorem perform_alias {g : Gate} {c c' : Call} (hcall : (g.given c).Indifferent)
    (hlists : g.lists.Indifferent) (h : c.Alias c') : g.perform c = g.perform c' := by
  cases h with
  | refl _ => rfl
  | decide rules r ha => rw [perform, perform, decide_alias hcall hlists r ha]
  | action rules r ha =>
    rw [perform, perform, Gate.action, Gate.action, decide_alias hcall hlists r ha]
  | serve r ha => rw [perform, perform, decide_alias hcall hlists r ha]

/-- **A run.**  The gates are equal behind every call, so the rules that are active are too, and one
script serves both. -/
theorem run_alias {calls calls' : List Call} (h : List.Forall₂ Call.Alias calls calls') :
    ∀ {g : Gate}, g.lists.Indifferent → (∀ c ∈ g.script calls, c.Indifferent) →
      g.run calls = g.run calls' := by
  induction h with
  | nil => exact fun _ _ => rfl
  | @cons c c' calls calls' hhead _ ih =>
    intro g hlists hcalls
    have hstep := perform_alias (hcalls _ List.mem_cons_self) hlists hhead
    have hrest := ih (g := (g.perform c).2) (by rwa [perform_lists])
      fun call hcall => hcalls call (List.mem_cons_of_mem _ hcall)
    rw [run_cons, run_cons, ← hstep, hrest]

theorem script_take : ∀ (calls : List Call) (n : Nat) (g : Gate),
    g.script (calls.take n) = (g.script calls).take n
  | [], n, g => by rw [List.take_nil, script, List.take_nil]
  | c :: calls, 0, g => rfl
  | c :: calls, n + 1, g => by
    rw [List.take_succ_cons, script, script, List.take_succ_cons, script_take calls n]

end Gate

/-! ## 5. One client -/

/-- **A client by its mapped address is the same client.**  A leaf that tests the address answers an
IPv4 address and its mapped form alike, and never fails, except exactly if it names the compatible
form or its answer turns on an IPv6 block that takes the compatible form and not the mapped one:
then it holds for the IPv4 address and not for the mapped form.  Some IPv4 address is told apart by
a block exactly if the block is longer than 80 bits and begins with zeros, up to the first 96 bits.
So if no rule of a run names an IPv6 address in `::/96`, and no rule and no list has such a block,
any client may come by either form at any of its requests: up to every point the replies are the
same, and so are the tallies, which both forms share, and all else. -/
theorem mapped_client_same :
    (∀ (leaf : Predicate) (r : Request) (hits : UInt64) (lists : AccessLists) (q : BitVec 32),
      leaf.testsAddress = true → ∃ holds holds',
        (evaluate (.readdressed r (.v4 q) hits lists) leaf).outcome = .ok holds ∧
        (evaluate (.readdressed r (.v6 (mapped q)) hits lists) leaf).outcome = .ok holds' ∧
        (holds ≠ holds' ↔ leaf.Separates lists q) ∧
        (leaf.Separates lists q → holds = true ∧ holds' = false)) ∧
    (∀ block : Block, (∃ q, block.Separates q) ↔ block.Separating) ∧
    (∀ (g : Gate) (calls calls' : List Call), g.lists.Indifferent →
      (∀ c ∈ g.script calls, c.Indifferent) → List.Forall₂ Call.Alias calls calls' →
        ∀ n, g.run (calls.take n) = g.run (calls'.take n)) ∧
    (∀ (t : HitTable) (q : BitVec 32), t.tally? (.v6 (mapped q)) = t.tally? (.v4 q)) := by
  refine ⟨?_, fun _ => Block.separates_iff, ?_, ?_⟩
  · intro leaf r hits lists q hleaf
    obtain ⟨holds, holds', hv4, hmapped, hiff, hfalse⟩ := leaf_mapped hleaf r hits lists q
    refine ⟨holds, holds', hv4, hmapped, ?_, fun h => ⟨hiff.2 (.inr h), hfalse h⟩⟩
    constructor
    · intro hne
      by_contra hseparates
      exact hne (by rw [Bool.eq_iff_iff, hiff, or_iff_left hseparates])
    · intro h
      rw [hiff.2 (.inr h), hfalse h]
      decide
  · intro g calls calls' hlists hcalls h n
    refine Gate.run_alias (List.forall₂_take n h) hlists ?_
    intro c hc
    rw [Gate.script_take] at hc
    exact hcalls c (List.mem_of_mem_take hc)
  · intro t q
    exact HitTable.tally?_congr (Address.canonical_mapped q)

/-- `10.0.0.1` comes twice under a rule about its network and its second hit, and is rejected then,
by whichever form it comes.  The block `::/96` tells the two forms apart. -/
theorem mapped_client_same_twice :
    ∃ (g : Gate) (rules : List Rule) (r : Request) (tens low : Block),
      g.lists.get? "office" = some [tens] ∧ low = .v6 Address.compatibles ∧
      r.address = .v4 0x0A000001#32 ∧
      (evaluate (.readdressed r (.v4 0x0A000001#32) 1 {}) (.addressIn low)).outcome = .ok true ∧
      (evaluate (.readdressed r (.v6 (mapped 0x0A000001#32)) 1 {}) (.addressIn low)).outcome =
        .ok false ∧
      (Predicate.addressIn low).Separates {} 0x0A000001#32 ∧
      (g.run [.decide rules r, .decide rules r]).1 =
        [.decision (.ok ⟨"accept", none⟩), .decision (.ok ⟨"reject", some 1⟩)] ∧
      g.run [.decide rules r, .decide rules r] =
        g.run [.decide rules r,
          .decide rules { r with address := .v6 (mapped 0x0A000001#32) }] := by
  obtain ⟨hleaf, -, hrun, -⟩ := mapped_client_same
  let tens : Block := .v4 ⟨0x0A000000#32, 8, by decide, by decide⟩
  let g : Gate := { lists := AccessLists.empty.insert "office" [tens] }
  let r : Request := .ofAddress (.v4 0x0A000001#32)
  let rules : List Rule := [⟨1, .all [.addressListed "office", .hitsAbove 1], "reject"⟩]
  have hv4 : (evaluate (.readdressed r (.v4 0x0A000001#32) 1 {})
      (.addressIn (.v6 Address.compatibles))).outcome = .ok true := rfl
  have hmapped : (evaluate (.readdressed r (.v6 (mapped 0x0A000001#32)) 1 {})
      (.addressIn (.v6 Address.compatibles))).outcome = .ok false := rfl
  have hlists : g.lists.Indifferent := by
    intro name blocks hblocks block hblock
    have hblocks : blocks = [tens] := by
      have hget : g.lists.get? name = if name = "office" then some [tens] else none :=
        Dictionary.get?_insert _ _ _ _
      rw [hget] at hblocks
      split at hblocks
      · exact (Option.some.inj hblocks).symm
      · cases hblocks
    rw [hblocks, List.mem_singleton] at hblock
    rintro ⟨n, hn, -⟩
    exact absurd (hblock.symm.trans hn) (by simp [tens])
  have hrules : Indifferent rules := by
    intro rule hrule leaf hmem
    rw [List.mem_singleton.1 hrule] at hmem
    have hmem : leaf = .addressListed "office" ∨ leaf = .hitsAbove 1 := by
      simpa [Predicate.leaves, Predicate.leavesOf] using hmem
    rcases hmem with rfl | rfl
    · exact id
    · exact id
  refine ⟨g, rules, r, tens, .v6 Address.compatibles, rfl, rfl, rfl, hv4, hmapped, ?_, rfl, ?_⟩
  · obtain ⟨holds, holds', h, h', hiff, -⟩ :=
      hleaf (.addressIn (.v6 Address.compatibles)) r 1 {} 0x0A000001#32 rfl
    refine hiff.1 ?_
    rw [← Except.ok.inj (hv4.symm.trans h), ← Except.ok.inj (hmapped.symm.trans h')]
    decide
  · refine hrun g _ _ hlists ?_ (.cons (.refl _) (.cons (.decide _ _ (.widen _)) .nil)) 2
    intro c hc
    have hc : c = .decide rules r := by
      simpa [Gate.script, Gate.given] using hc
    rw [hc]
    exact hrules

end Turnstile
