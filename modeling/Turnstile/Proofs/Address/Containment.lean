/-
# What a block contains

A block is given by a prefix of bits and tested as an interval of numbers.  Both readings are exact,
at every length from none of the bits to all of them, and they give the order of blocks by
inclusion.

**Masks** (section 3).  The two masks of a block are complementary, the one with as many leading
ones as the block has shared bits, and no bit of the base is outside of it.  The constructor makes
sure of that; `Block.make_eq_ok_iff` says what it lets through.

**Nested or disjoint** (sections 1 and 2).  Two networks with an address in common agree in the bits
that the shorter one shares, so it encloses the longer one (`Network.encloses_of_common`).  That is
the only way for one to enclose the other (`Network.encloses_iff`): if the longer one were to
enclose the shorter, the first and the last address of the shorter would agree in a bit that is free
there.

**Across families** (section 4).  An IPv4 block sees the IPv4 address that an IPv6 address carries,
and fails if there is none; an IPv6 block looks for any IPv6 address that carries an IPv4 address.
-/
import Turnstile.Proofs.Address.Network

namespace Turnstile

/-! ## 1. Networks within networks -/

namespace Network

variable {w : Nat} {m n : Network w} {a : BitVec w}

theorem contains_base (n : Network w) : n.contains n.base = true :=
  (n.contains_iff _).2 fun _ _ => rfl

theorem contains_last (n : Network w) : n.contains n.last = true := by
  rw [contains_iff_le, toNat_last]
  exact ⟨Nat.le_add_right _ _, Nat.le_refl _⟩

/-- The bits of the last address that are not shared are ones, as those of the base are zeros.  That
the two differ in every free bit is what keeps a longer network from enclosing a shorter one. -/
theorem getMsbD_last {i : Nat} (hi : n.length ≤ i) (hw : i < w) : n.last.getMsbD i = true := by
  rw [last, BitVec.getMsbD_or, getMsbD_hostMask, decide_eq_true hi, decide_eq_true hw,
    Bool.and_self, Bool.or_true]

/-- Every address of the second network lies in the first. -/
def Encloses (m n : Network w) : Prop :=
  ∀ a, n.contains a = true → m.contains a = true

/-- **A network encloses another one** if it is no longer and contains the base of the other one.  A
test of one address is enough, since the bits that the longer one shares begin with those of the
shorter one. -/
theorem encloses_iff : m.Encloses n ↔ m.length ≤ n.length ∧ m.contains n.base = true := by
  constructor
  · intro h
    have hbase := h _ n.contains_base
    have hlast := h _ n.contains_last
    refine ⟨Nat.not_lt.1 fun hlt => ?_, hbase⟩
    -- the first and the last address of `n` differ in a bit that all addresses of `m` share
    have hw : n.length < w := Nat.lt_of_lt_of_le hlt m.length_le
    have hfirst := (m.contains_iff _).1 hbase _ hlt
    have hbit := (m.contains_iff _).1 hlast _ hlt
    rw [← hfirst, n.getMsbD_base (Nat.le_refl _), getMsbD_last (Nat.le_refl _) hw] at hbit
    cases hbit
  · rintro ⟨hle, hbase⟩ a ha
    rw [contains_iff] at hbase ha ⊢
    intro i hi
    rw [ha i (Nat.lt_of_lt_of_le hi hle), hbase i hi]

/-- The shorter of two networks with a common address encloses the other one: both have the leading
bits of that address, and the shorter one asks for fewer of them. -/
theorem encloses_of_common (hle : m.length ≤ n.length) (hm : m.contains a = true)
    (hn : n.contains a = true) : m.Encloses n := by
  rw [encloses_iff]
  refine ⟨hle, ?_⟩
  rw [contains_iff] at hm hn ⊢
  intro i hi
  rw [← hn i (Nat.lt_of_lt_of_le hi hle), hm i hi]

/-- **Networks are nested or disjoint.**  One of the two is no longer than the other, and if they
have an address in common that one encloses the other. -/
theorem disjoint_or_nested (m n : Network w) :
    (∀ a, ¬(m.contains a = true ∧ n.contains a = true)) ∨ m.Encloses n ∨ n.Encloses m := by
  by_cases h : ∃ a, m.contains a = true ∧ n.contains a = true
  · obtain ⟨a, hm, hn⟩ := h
    rcases Nat.le_total m.length n.length with hle | hle
    · exact .inr (.inl (encloses_of_common hle hm hn))
    · exact .inr (.inr (encloses_of_common hle hn hm))
  · exact .inl (not_exists.1 h)

/-- An address lies in a network of each length, the one whose base has its leading bits and zeros
behind them. -/
theorem exists_contains (a : BitVec w) {length : Nat} (hlength : length ≤ w) :
    ∃ n : Network w, n.length = length ∧ n.contains a = true := by
  have haligned : a &&& networkMask w length &&& networkMask w length =
      a &&& networkMask w length := by
    rw [BitVec.and_assoc, BitVec.and_self]
  refine ⟨⟨a &&& networkMask w length, length, hlength, haligned⟩, rfl, ?_⟩
  rw [contains_iff_masked]

end Network

/-! ## 2. Blocks within blocks -/

theorem Family.width_le (f : Family) : f.width ≤ 128 := by
  cases f <;> decide

namespace Block

variable {a b : Block} {x : Address}

/-- An address of the block's own family lies in the block. -/
def Holds (b : Block) (x : Address) : Prop :=
  x.family = b.family ∧ b.contains x = .ok true

/-- Every address of the second block lies in the first. -/
def Encloses (a b : Block) : Prop :=
  ∀ x, b.Holds x → a.Holds x

theorem contains_v4_v4 {n : Network 32} {q : BitVec 32} :
    (v4 n).contains (.v4 q) = .ok true ↔ n.contains q = true := by
  rw [contains, Except.ok.injEq]

theorem contains_v6_v6 {n : Network 128} {c : BitVec 128} :
    (v6 n).contains (.v6 c) = .ok true ↔ n.contains c = true := by
  rw [contains, Except.ok.injEq]

theorem holds_v4 {n : Network 32} :
    (v4 n).Holds x ↔ ∃ q, x = .v4 q ∧ n.contains q = true := by
  cases x with
  | v4 q => simp [Holds, Address.family, family, contains_v4_v4]
  | v6 c => simp [Holds, Address.family, family]

theorem holds_v6 {n : Network 128} :
    (v6 n).Holds x ↔ ∃ c, x = .v6 c ∧ n.contains c = true := by
  cases x with
  | v4 q => simp [Holds, Address.family, family]
  | v6 c => simp [Holds, Address.family, family, contains_v6_v6]

theorem encloses_v4 {m n : Network 32} : (v4 m).Encloses (v4 n) ↔ m.Encloses n := by
  simp only [Encloses, Network.Encloses, holds_v4]
  constructor
  · intro h q hq
    obtain ⟨_, ⟨⟩, hm⟩ := h _ ⟨q, rfl, hq⟩
    exact hm
  · rintro h _ ⟨q, rfl, hq⟩
    exact ⟨q, rfl, h q hq⟩

theorem encloses_v6 {m n : Network 128} : (v6 m).Encloses (v6 n) ↔ m.Encloses n := by
  simp only [Encloses, Network.Encloses, holds_v6]
  constructor
  · intro h c hc
    obtain ⟨_, ⟨⟩, hm⟩ := h _ ⟨c, rfl, hc⟩
    exact hm
  · rintro h _ ⟨c, rfl, hc⟩
    exact ⟨c, rfl, h c hc⟩

/-- **A block encloses another one of its family** if it is no longer and contains the base of the
other one.  It is the law of networks, read once for each width. -/
theorem encloses_iff (h : a.family = b.family) :
    a.Encloses b ↔ a.length ≤ b.length ∧ a.contains b.base = .ok true := by
  match a, b, h with
  | v4 m, v4 n, _ => rw [encloses_v4, Network.encloses_iff, base, contains_v4_v4, length, length]
  | v6 m, v6 n, _ => rw [encloses_v6, Network.encloses_iff, base, contains_v6_v6, length, length]

/-- **Blocks of one family are nested or disjoint.**  Nothing of the kind holds across families,
where a block can contain an address in one form and not in the other. -/
theorem disjoint_or_nested (h : a.family = b.family) :
    (∀ x, ¬(a.Holds x ∧ b.Holds x)) ∨ a.Encloses b ∨ b.Encloses a := by
  match a, b, h with
  | v4 m, v4 n, _ =>
    rw [encloses_v4, encloses_v4]
    refine (Network.disjoint_or_nested m n).imp_left fun h x => ?_
    rw [holds_v4, holds_v4]
    rintro ⟨⟨q, rfl, hm⟩, _, ⟨⟩, hn⟩
    exact h q ⟨hm, hn⟩
  | v6 m, v6 n, _ =>
    rw [encloses_v6, encloses_v6]
    refine (Network.disjoint_or_nested m n).imp_left fun h x => ?_
    rw [holds_v6, holds_v6]
    rintro ⟨⟨c, rfl, hm⟩, _, ⟨⟩, hn⟩
    exact h c ⟨hm, hn⟩

/-- There is a block of each length around an address, so that the statements about blocks of a
given length are not empty. -/
theorem exists_holds (x : Address) {length : Nat} (hlength : length ≤ x.family.width) :
    ∃ b : Block, b.length = length ∧ b.Holds x := by
  cases x with
  | v4 q =>
    obtain ⟨n, hn, hq⟩ := Network.exists_contains q hlength
    exact ⟨v4 n, hn, holds_v4.2 ⟨q, rfl, hq⟩⟩
  | v6 c =>
    obtain ⟨n, hn, hc⟩ := Network.exists_contains c hlength
    exact ⟨v6 n, hn, holds_v6.2 ⟨c, rfl, hc⟩⟩

/-! ## 3. Masks -/

theorem family_base (b : Block) : b.base.family = b.family := by
  cases b <;> rfl

theorem family_mask (b : Block) : b.mask.family = b.family := by
  cases b <;> rfl

theorem family_freeMask (b : Block) : b.freeMask.family = b.family := by
  cases b <;> rfl

theorem length_le (b : Block) : b.length ≤ b.family.width := by
  cases b with
  | v4 n => exact n.length_le
  | v6 n => exact n.length_le

/-- The parts of a block give it back, since the base of a block has no bit that the constructor
would find to be free. -/
theorem make_base_length (b : Block) : make b.base b.length = .ok b := by
  cases b with
  | v4 n => simp [make, base, length, Address.family, Family.width, n.length_le, n.aligned]
  | v6 n => simp [make, base, length, Address.family, Family.width, n.length_le, n.aligned]

/-- **The constructor makes the block with the given parts**, if there is one.  It refuses nothing
that a block can have, and changes nothing that it is called with. -/
theorem make_eq_ok_iff {base : Address} {length : Nat} :
    make base length = .ok b ↔ b.base = base ∧ b.length = length := by
  constructor
  · intro h
    unfold make at h
    split at h
    · split at h
      · split at h
        · cases h
          exact ⟨rfl, rfl⟩
        · cases h
      · split at h
        · cases h
          exact ⟨rfl, rfl⟩
        · cases h
    · cases h
  · rintro ⟨rfl, rfl⟩
    exact b.make_base_length

/-- A bit of a number, counted from the most significant one of `w`.  Masks are numbers here, and
lengths count bits from the front. -/
theorem testBit_toNat {w i : Nat} (c : BitVec w) (hi : i < w) :
    c.toNat.testBit (w - 1 - i) = c.getMsbD i := by
  rw [BitVec.getMsbD_eq_getLsbD, decide_eq_true hi, Bool.true_and, BitVec.testBit_toNat]

/-- **The network mask has the leading ones**, as many as the block has shared bits, and zeros
behind them.  At length zero it has none, and at full length nothing else. -/
theorem testBit_mask (b : Block) {i : Nat} (hi : i < b.family.width) :
    b.mask.toNat.testBit (b.family.width - 1 - i) = decide (i < b.length) := by
  cases b with
  | v4 n => exact (testBit_toNat _ hi).trans (getMsbD_networkMask n.length_le i)
  | v6 n => exact (testBit_toNat _ hi).trans (getMsbD_networkMask n.length_le i)

/-- **The other mask has all other ones**, so that the two masks are complementary at every bit of
the block's family. -/
theorem testBit_freeMask (b : Block) {i : Nat} (hi : i < b.family.width) :
    b.freeMask.toNat.testBit (b.family.width - 1 - i) = !decide (i < b.length) := by
  have hfree : ∀ w length, i < w → (hostMask w length).getMsbD i = !decide (i < length) := by
    intro w length hw
    rw [getMsbD_hostMask, decide_eq_true hw, Bool.true_and, ← decide_not]
    exact decide_eq_decide.2 Nat.not_lt.symm
  cases b with
  | v4 n => exact (testBit_toNat _ hi).trans (hfree _ _ hi)
  | v6 n => exact (testBit_toNat _ hi).trans (hfree _ _ hi)

/-- **No bit of the base is free.**  The type of networks holds that, and the constructor refuses
what breaks it. -/
theorem base_and_freeMask (b : Block) : b.base.toNat &&& b.freeMask.toNat = 0 := by
  cases b with
  | v4 n => exact (BitVec.toNat_and _ _).symm.trans (congrArg BitVec.toNat n.base_and_hostMask)
  | v6 n => exact (BitVec.toNat_and _ _).symm.trans (congrArg BitVec.toNat n.base_and_hostMask)

/-- Within a family a test always answers.  Only an IPv6 address that carries no IPv4 address can
make one fail, and that takes an IPv4 block. -/
theorem exists_contains_eq_ok (h : x.family = b.family) : ∃ holds, b.contains x = .ok holds := by
  cases b with
  | v4 n =>
    cases x with
    | v4 q => exact ⟨_, rfl⟩
    | v6 c => cases h
  | v6 n =>
    cases x with
    | v4 q => cases h
    | v6 c => exact ⟨_, rfl⟩

/-- **A block contains what its mask turns into its base.**  This is how the test computes; the two
statements about intervals say what it comes to. -/
theorem contains_iff_masked (h : x.family = b.family) :
    b.contains x = .ok true ↔ x.toNat &&& b.mask.toNat = b.base.toNat := by
  have hnetwork : ∀ {w : Nat} (n : Network w) (c : BitVec w), n.contains c = true ↔
      c.toNat &&& (networkMask w n.length).toNat = n.base.toNat := by
    intro w n c
    rw [n.contains_iff_masked, ← BitVec.toNat_and, BitVec.toNat_inj]
  cases b with
  | v4 n =>
    cases x with
    | v4 q => exact contains_v4_v4.trans (hnetwork n q)
    | v6 c => cases h
  | v6 n =>
    cases x with
    | v4 q => cases h
    | v6 c => exact contains_v6_v6.trans (hnetwork n c)

/-- **A block contains the interval from its base** to the address with all free bits set.  No
address in between is left out, since the free bits are the last ones. -/
theorem contains_iff_le (h : x.family = b.family) :
    b.contains x = .ok true ↔
      b.base.toNat ≤ x.toNat ∧ x.toNat ≤ b.base.toNat ||| b.freeMask.toNat := by
  have hnetwork : ∀ {w : Nat} (n : Network w) (c : BitVec w), n.contains c = true ↔
      n.base.toNat ≤ c.toNat ∧ c.toNat ≤ n.base.toNat ||| (hostMask w n.length).toNat := by
    intro w n c
    rw [n.contains_iff_le, Network.last, BitVec.toNat_or]
  cases b with
  | v4 n =>
    cases x with
    | v4 q => exact contains_v4_v4.trans (hnetwork n q)
    | v6 c => cases h
  | v6 n =>
    cases x with
    | v4 q => cases h
    | v6 c => exact contains_v6_v6.trans (hnetwork n c)

end Block

/-! ## 4. Across families -/

namespace Address

/-- An IPv6 address carries an IPv4 address as its last 32 bits, behind zeros or behind the sixteen
ones of the mapped form. -/
def Carries (c : BitVec 128) (q : BitVec 32) : Prop :=
  c.toNat = q.toNat ∨ c.toNat = 0xFFFF * 2 ^ 32 + q.toNat

theorem carries_iff {c : BitVec 128} {q : BitVec 32} :
    Carries c q ↔ c = compatible q ∨ c = mapped q := by
  have hcompatible : (compatible q).toNat = q.toNat := by
    rw [compatible, toNat_joined]
    exact (congrArg (· + q.toNat) (Nat.zero_mul _)).trans (Nat.zero_add _)
  have hmapped : (mapped q).toNat = 0xFFFF * 2 ^ 32 + q.toNat := by
    rw [mapped, toNat_joined]
    rfl
  rw [Carries, ← hmapped, ← BitVec.toNat_inj, ← BitVec.toNat_inj, hcompatible]

theorem embedded?_eq_some_iff_carries {c : BitVec 128} {q : BitVec 32} :
    embedded? c = some q ↔ Carries c q := by
  rw [embedded?_eq_some_iff, carries_iff, or_comm]

end Address

namespace Block

open Address (Carries)

/-- An IPv4 block answers for an IPv6 address as for the IPv4 address that it carries, whichever of
the two forms that has. -/
theorem contains_of_carries {c : BitVec 128} {q : BitVec 32} (h : Carries c q) (n : Network 32) :
    (v4 n).contains (.v6 c) = (v4 n).contains (.v4 q) := by
  simp only [contains, Address.embedded?_eq_some_iff_carries.2 h]

/-- An IPv4 block fails for an IPv6 address exactly if that carries no IPv4 address, and the error
names the block and the address. -/
theorem contains_eq_error_iff_carries {c : BitVec 128} {n : Network 32} {m : FamilyMismatch} :
    (v4 n).contains (.v6 c) = .error m ↔ (∀ q, ¬Carries c q) ∧ m = ⟨v4 n, .v6 c⟩ := by
  simp only [← Address.embedded?_eq_some_iff_carries, contains]
  rcases Address.embedded? c with _ | q
  · simp [eq_comm]
  · simp

/-- An IPv6 block contains an IPv4 address if it contains one of the two addresses that carry it.
It never fails, as every IPv4 address is carried. -/
theorem contains_v4_iff_carries {n : Network 128} {q : BitVec 32} :
    (v6 n).contains (.v4 q) = .ok true ↔
      ∃ c, Carries c q ∧ (v6 n).contains (.v6 c) = .ok true := by
  simp [contains, Address.carries_iff]

/-! ## 5. Blocks as intervals -/

/-- **Containment is exactly the block's interval, and blocks are nested or disjoint.**  The
constructor gives a block the base and the length it is called with, and there is a block of each
length around each address.  The masks are complementary, with as many leading ones in the network
mask as the length says, and no bit of the base is in the free one.  For an address of the block's
family there is always an answer, and it is yes if the mask turns the address into the base, which
is to say between the base and the base with the free bits set.  Two blocks of one family have no
address in common, or one has all of the other; it does if it is no longer and contains the base of
the other one.  Across families an IPv4 block answers for the IPv4 address that an IPv6 address
carries, and fails if there is none, and an IPv6 block contains an IPv4 address if it contains one
of the two forms that carry it. -/
theorem intervals_nested_or_disjoint :
    (∀ (base : Address) (length : Nat) (b : Block),
      make base length = .ok b ↔ b.base = base ∧ b.length = length) ∧
    (∀ (x : Address) (length : Nat), length ≤ x.family.width →
      ∃ b : Block, b.length = length ∧ b.Holds x) ∧
    (∀ b : Block, b.length ≤ b.family.width ∧ b.base.family = b.family ∧
      b.mask.family = b.family ∧ b.freeMask.family = b.family ∧
      b.base.toNat &&& b.freeMask.toNat = 0 ∧
      ∀ i < b.family.width,
        b.mask.toNat.testBit (b.family.width - 1 - i) = decide (i < b.length) ∧
        b.freeMask.toNat.testBit (b.family.width - 1 - i) = !decide (i < b.length)) ∧
    (∀ (b : Block) (x : Address), x.family = b.family →
      (∃ holds, b.contains x = .ok holds) ∧
      (b.contains x = .ok true ↔ x.toNat &&& b.mask.toNat = b.base.toNat) ∧
      (b.contains x = .ok true ↔
        b.base.toNat ≤ x.toNat ∧ x.toNat ≤ b.base.toNat ||| b.freeMask.toNat)) ∧
    (∀ a b : Block, a.family = b.family →
      ((∀ x, ¬(a.Holds x ∧ b.Holds x)) ∨ a.Encloses b ∨ b.Encloses a) ∧
      (a.Encloses b ↔ a.length ≤ b.length ∧ a.contains b.base = .ok true)) ∧
    (∀ (n : Network 32) (c : BitVec 128),
      (∀ q, Carries c q → (v4 n).contains (.v6 c) = (v4 n).contains (.v4 q)) ∧
      ∀ m, (v4 n).contains (.v6 c) = .error m ↔ (∀ q, ¬Carries c q) ∧ m = ⟨v4 n, .v6 c⟩) ∧
    (∀ (n : Network 128) (q : BitVec 32),
      (∃ holds, (v6 n).contains (.v4 q) = .ok holds) ∧
      ((v6 n).contains (.v4 q) = .ok true ↔
        ∃ c, Carries c q ∧ (v6 n).contains (.v6 c) = .ok true)) := by
  refine ⟨fun _ _ _ => make_eq_ok_iff, fun x _ => exists_holds x, ?_, ?_, ?_, ?_, ?_⟩
  · intro b
    refine ⟨b.length_le, b.family_base, b.family_mask, b.family_freeMask, b.base_and_freeMask, ?_⟩
    exact fun i hi => ⟨b.testBit_mask hi, b.testBit_freeMask hi⟩
  · intro b x h
    exact ⟨exists_contains_eq_ok h, contains_iff_masked h, contains_iff_le h⟩
  · intro a b h
    exact ⟨disjoint_or_nested h, encloses_iff h⟩
  · intro n c
    exact ⟨fun q h => contains_of_carries h n, fun m => contains_eq_error_iff_carries⟩
  · intro n q
    exact ⟨⟨_, rfl⟩, contains_v4_iff_carries⟩

/-- Lengths at both ends: `0.0.0.0/0` encloses the one address of `10.0.0.1/32`, which is also seen
in its mapped form, and not in an address that carries none. -/
theorem intervals_nested_or_disjoint_ends :
    ∃ (everything host : Block) (forms : Network 128) (stranger : BitVec 128),
      make (.v4 0#32) 0 = .ok everything ∧ make (.v4 0x0A000001#32) 32 = .ok host ∧
      forms.base = Address.mapped 0#32 ∧ forms.length = 96 ∧
      stranger = 0x20010DB8000000000000000000000001#128 ∧
      everything.Encloses host ∧ ¬host.Encloses everything ∧
      (∀ i < 32, everything.mask.toNat.testBit (31 - i) = false) ∧
      (∀ i < 32, host.mask.toNat.testBit (31 - i) = true) ∧
      everything.contains (.v4 0xFFFFFFFF#32) = .ok true ∧
      host.contains (.v6 (Address.mapped 0x0A000001#32)) = .ok true ∧
      host.contains (.v6 stranger) = .error ⟨host, .v6 stranger⟩ ∧
      (v6 forms).contains (.v4 0x0A000001#32) = .ok true := by
  obtain ⟨hmake, -, hmasks, hinterval, hnested, hembedded, hforms⟩ := intervals_nested_or_disjoint
  let wide : Network 32 := ⟨0#32, 0, by decide, by decide⟩
  let narrow : Network 32 := ⟨0x0A000001#32, 32, by decide, by decide⟩
  let forms : Network 128 := ⟨Address.mapped 0#32, 96, by decide, by decide⟩
  let stranger : BitVec 128 := 0x20010DB8000000000000000000000001#128
  have hcarries : Carries (Address.mapped 0x0A000001#32) 0x0A000001#32 := .inr (by decide)
  have hwide : ∀ i < 32, (v4 wide).mask.toNat.testBit (31 - i) = decide (i < 0) :=
    fun i hi => ((hmasks (v4 wide)).2.2.2.2.2 i hi).1
  have hnarrow : ∀ i < 32, (v4 narrow).mask.toNat.testBit (31 - i) = decide (i < 32) :=
    fun i hi => ((hmasks (v4 narrow)).2.2.2.2.2 i hi).1
  refine ⟨v4 wide, v4 narrow, forms, stranger, (hmake _ _ _).2 ⟨rfl, rfl⟩,
    (hmake _ _ _).2 ⟨rfl, rfl⟩, rfl, rfl, rfl, ?_, ?_, ?_, ?_, ?_, ?_, ?_, ?_⟩
  · exact (hnested (v4 wide) (v4 narrow) rfl).2.2 ⟨by decide, contains_v4_v4.2 (by decide)⟩
  · intro h
    exact absurd ((hnested (v4 narrow) (v4 wide) rfl).2.1 h).1 (by decide)
  · intro i hi
    rw [hwide i hi, decide_eq_false (Nat.not_lt_zero i)]
  · intro i hi
    rw [hnarrow i hi, decide_eq_true hi]
  · exact (hinterval (v4 wide) (.v4 0xFFFFFFFF#32) rfl).2.2.2 ⟨by decide, by decide⟩
  · rw [(hembedded narrow _).1 _ hcarries]
    exact contains_v4_v4.2 (by decide)
  · refine ((hembedded narrow stranger).2 _).2 ⟨fun q hq => ?_, rfl⟩
    have hlt := q.isLt
    have hstranger : stranger.toNat = 0x20010DB8000000000000000000000001 := rfl
    rcases hq with hq | hq
    · omega
    · omega
  · exact (hforms forms _).2.2 ⟨_, hcarries, contains_v6_v6.2 (by decide)⟩

end Block

end Turnstile
