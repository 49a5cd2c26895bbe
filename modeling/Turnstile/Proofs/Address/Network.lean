/-
# Networks bit by bit

A network is tested as an interval of numbers, and what it stands for is a prefix of bits.  The two
meet in the masks: to clear the bits that are not shared is to round down to a multiple of the
network's size, and the interval is what rounds down to the base (`Network.contains_iff_masked`).

So an address lies in a network if it agrees with the network address in the bits that all share,
counted from the most significant one (`Network.contains_iff`).  In this reading the two forms in
which IPv6 carries an IPv4 address are easy to compare: they differ in the sixteen bits from the
eightieth on, and nowhere else (`Address.getMsbD_mapped`, `Address.getMsbD_compatible`).
-/
import Mathlib
import Turnstile.Block

namespace Turnstile

/-! ## 1. Masks -/

section Masks

variable {w length : Nat}

/-- The network mask has the first bits set, as many as its length says, which may be none of them
or all. -/
theorem getMsbD_networkMask (hlength : length ≤ w) (i : Nat) :
    (networkMask w length).getMsbD i = decide (i < length) := by
  rw [networkMask, BitVec.getMsbD_shiftLeft, BitVec.getMsbD_allOnes]
  exact decide_eq_decide.2 (by omega)

/-- The host mask has all other bits set.  The two conditions are those of a bit that exists and is
not shared. -/
theorem getMsbD_hostMask (i : Nat) :
    (hostMask w length).getMsbD i = (decide (i < w) && decide (length ≤ i)) := by
  rw [hostMask, BitVec.getMsbD_ushiftRight, BitVec.getMsbD_allOnes, ← decide_not, ← Bool.decide_and,
    ← Bool.decide_and, ← Bool.decide_and]
  exact decide_eq_decide.2 (by omega)

/-- The host mask as a number, one less than the number of addresses that share the other bits. -/
theorem toNat_hostMask : (hostMask w length).toNat = 2 ^ (w - length) - 1 := by
  refine Nat.eq_of_testBit_eq fun i => ?_
  rw [hostMask, BitVec.toNat_ushiftRight, BitVec.toNat_allOnes, Nat.testBit_shiftRight,
    Nat.testBit_two_pow_sub_one, Nat.testBit_two_pow_sub_one]
  exact decide_eq_decide.2 (by omega)

/-- To mask an address is to round it down to a multiple of the size.  This is where bits turn into
numbers. -/
theorem toNat_and_networkMask (a : BitVec w) :
    (a &&& networkMask w length).toNat =
      a.toNat / 2 ^ (w - length) * 2 ^ (w - length) := by
  have hle : a.toNat / 2 ^ (w - length) * 2 ^ (w - length) ≤ a.toNat := Nat.div_mul_le_self _ _
  rw [networkMask, ← BitVec.shiftLeft_ushiftRight, BitVec.toNat_shiftLeft, BitVec.toNat_ushiftRight,
    Nat.shiftRight_eq_div_pow, Nat.shiftLeft_eq, Nat.mod_eq_of_lt (Nat.lt_of_le_of_lt hle a.isLt)]

end Masks

/-! ## 2. Networks -/

namespace Network

variable {w : Nat} (n : Network w)

/-- How many addresses the network has. -/
def size : Nat :=
  2 ^ (w - n.length)

theorem size_pos : 0 < n.size :=
  Nat.two_pow_pos _

/-- The base is a multiple of the size, as the type of networks has it without host bits. -/
theorem base_div_mul_size : n.base.toNat / n.size * n.size = n.base.toNat := by
  rw [size, ← toNat_and_networkMask, n.aligned]

/-- The bits of the network address that are not shared are zero, so a network has one base and not
many. -/
theorem getMsbD_base {i : Nat} (hi : n.length ≤ i) : n.base.getMsbD i = false := by
  rw [← n.aligned, BitVec.getMsbD_and, getMsbD_networkMask n.length_le,
    decide_eq_false (Nat.not_lt.2 hi), Bool.and_false]

/-- **No bit of the network address is a host bit.**  Bit by bit, one of the two sides is zero. -/
theorem base_and_hostMask : n.base &&& hostMask w n.length = 0#w := by
  refine BitVec.eq_of_getMsbD_eq fun i hi => ?_
  rw [BitVec.getMsbD_and, getMsbD_hostMask, BitVec.getMsbD_zero]
  by_cases hlength : n.length ≤ i
  · rw [n.getMsbD_base hlength, Bool.false_and]
  · rw [decide_eq_false hlength, Bool.and_false, Bool.and_false]

/-- The last address as a number: the base, and all host bits on top of it, which it has none of. -/
theorem toNat_last : n.last.toNat = n.base.toNat + (n.size - 1) := by
  rw [last, ← BitVec.add_eq_or_of_and_eq_zero _ _ n.base_and_hostMask,
    BitVec.toNat_add_of_and_eq_zero n.base_and_hostMask, toNat_hostMask, size]

/-- The addresses of the network as an interval of numbers, which is how a test is made. -/
theorem contains_iff_le (a : BitVec w) :
    n.contains a = true ↔ n.base.toNat ≤ a.toNat ∧ a.toNat ≤ n.last.toNat := by
  rw [contains, Bool.and_eq_true, decide_eq_true_iff, decide_eq_true_iff, BitVec.le_def,
    BitVec.le_def]

/-- **An address lies in a network if it becomes the network address when it is masked.**  The
interval from a multiple of the size on is what rounds down to that multiple. -/
theorem contains_iff_masked (a : BitVec w) :
    n.contains a = true ↔ a &&& networkMask w n.length = n.base := by
  have hsize := n.size_pos
  have hbase := n.base_div_mul_size
  have hdiv := Nat.div_add_mod a.toNat n.size
  have hmod := Nat.mod_lt a.toNat hsize
  rw [contains_iff_le, toNat_last, ← BitVec.toNat_inj, toNat_and_networkMask, ← size]
  constructor
  · rintro ⟨hlow, hhigh⟩
    -- the quotients agree, for between two multiples of the size there is no room for a third
    have hquotient : a.toNat / n.size = n.base.toNat / n.size := by
      refine Nat.div_eq_of_lt_le ?_ ?_
      · rw [hbase]
        exact hlow
      · rw [Nat.succ_mul, hbase]
        omega
    rw [hquotient, hbase]
  · intro h
    rw [Nat.mul_comm] at h
    omega

/-- **An address lies in a network if it agrees with the network address in the shared bits.**  All
that is said of networks within networks rests on this reading. -/
theorem contains_iff (a : BitVec w) :
    n.contains a = true ↔ ∀ i < n.length, a.getMsbD i = n.base.getMsbD i := by
  rw [contains_iff_masked]
  constructor
  · intro h i hi
    rw [← h, BitVec.getMsbD_and, getMsbD_networkMask n.length_le, decide_eq_true hi, Bool.and_true]
  · intro h
    refine BitVec.eq_of_getMsbD_eq fun i _ => ?_
    rw [BitVec.getMsbD_and, getMsbD_networkMask n.length_le]
    by_cases hi : i < n.length
    · rw [decide_eq_true hi, Bool.and_true, h i hi]
    · rw [decide_eq_false hi, Bool.and_false, n.getMsbD_base (Nat.not_lt.1 hi)]

end Network

/-! ## 3. Forms of an IPv4 address -/

namespace Address

theorem joined_extract (b : BitVec 128) :
    joined (b.extractLsb' 32 96) (b.extractLsb' 0 32) = b :=
  (BitVec.extractLsb'_append_extractLsb'_eq_extractLsb' rfl).trans BitVec.extractLsb'_eq_self

/-- A mapped address is the mapped form of the address that it carries: the bits in front are fixed,
and the others are carried. -/
theorem eq_mapped_of_mapped? {b : BitVec 128} {q : BitVec 32} (h : mapped? b = some q) :
    b = mapped q := by
  rw [mapped?] at h
  split at h
  · next hhigh =>
    obtain rfl := Option.some.inj h
    rw [mapped, ← hhigh, joined_extract]
  · cases h

/-- A compatible address is the compatible form of the address that it carries, for the same
reason. -/
theorem eq_compatible_of_compatible? {b : BitVec 128} {q : BitVec 32}
    (h : compatible? b = some q) : b = compatible q := by
  rw [compatible?] at h
  split at h
  · next hhigh =>
    obtain rfl := Option.some.inj h
    rw [compatible, ← hhigh, joined_extract]
  · cases h

/-- **An IPv6 address carries an IPv4 address if it is one of its two forms.**  No address is of
both forms, so it carries one IPv4 address at most. -/
theorem embedded?_eq_some_iff {b : BitVec 128} {q : BitVec 32} :
    embedded? b = some q ↔ b = mapped q ∨ b = compatible q := by
  constructor
  · intro h
    rcases Option.or_eq_some_iff.1 h with hmapped | ⟨-, hcompatible⟩
    · exact .inl (eq_mapped_of_mapped? hmapped)
    · exact .inr (eq_compatible_of_compatible? hcompatible)
  · rintro (rfl | rfl)
    · exact embedded?_mapped q
    · exact embedded?_compatible q

theorem toNat_joined (high : BitVec 96) (low : BitVec 32) :
    (joined high low).toNat = high.toNat * 4294967296 + low.toNat := by
  change (high ++ low).toNat = _
  rw [BitVec.toNat_append, ← Nat.shiftLeft_add_eq_or_of_lt low.isLt, Nat.shiftLeft_eq]

theorem getMsbD_joined (high : BitVec 96) (low : BitVec 32) (i : Nat) :
    (joined high low).getMsbD i = if 96 ≤ i then low.getMsbD (i - 96) else high.getMsbD i :=
  BitVec.getMsbD_append

/-- The compatible form has the bits of the IPv4 address behind 96 zeros, so its bits are tested
behind them. -/
theorem getMsbD_compatible (q : BitVec 32) (i : Nat) :
    (compatible q).getMsbD i = if 96 ≤ i then q.getMsbD (i - 96) else false := by
  rw [compatible, getMsbD_joined, BitVec.getMsbD_zero]

/-- The mapped form has sixteen ones in front of the bits of the IPv4 address, and eighty zeros in
front of these. -/
theorem getMsbD_mapped (q : BitVec 32) (i : Nat) :
    (mapped q).getMsbD i = if 96 ≤ i then q.getMsbD (i - 96) else decide (80 ≤ i) := by
  have hhigh : ∀ i : Fin 96, (0xFFFF#96).getMsbD i = decide (80 ≤ i.val) := by decide
  rw [mapped, getMsbD_joined]
  split
  · rfl
  · next hi => exact hhigh ⟨i, Nat.not_le.1 hi⟩

/-- **The two forms agree but for the bits from the eightieth to the ninety-sixth.**  A network
tells them apart if it shares one of these bits, and only then. -/
theorem getMsbD_mapped_eq_compatible {q : BitVec 32} {i : Nat} (hi : i < 80 ∨ 96 ≤ i) :
    (mapped q).getMsbD i = (compatible q).getMsbD i := by
  rw [getMsbD_mapped, getMsbD_compatible]
  split
  · rfl
  · exact decide_eq_false (by omega)

/-- An address with 96 leading zeros is the compatible form of its last 32 bits, as far as the
length goes. -/
theorem exists_compatible {b : BitVec 128} {length : Nat}
    (h : ∀ i < min length 96, b.getMsbD i = false) :
    ∃ q, ∀ i < length, (compatible q).getMsbD i = b.getMsbD i := by
  refine ⟨b.extractLsb' 0 32, fun i hi => ?_⟩
  rw [getMsbD_compatible]
  split
  · next hlow =>
    rw [BitVec.getMsbD_extractLsb']
    by_cases hb : i < 128
    · rw [decide_eq_true (by omega), decide_eq_true (by omega), Bool.true_and, Bool.true_and]
      congr 1
      omega
    · rw [decide_eq_false (by omega), Bool.false_and, BitVec.getMsbD_of_ge _ _ (by omega)]
  · exact (h i (by omega)).symm

end Address

end Turnstile
