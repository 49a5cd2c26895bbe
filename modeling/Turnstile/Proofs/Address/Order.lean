/-
# The order of blocks

Two IPv4 blocks are compared in their own 32 bits, and any other two blocks in 128 bits, where IPv4
blocks have their mapped place.  A comparison whose key depends on both sides need not be
transitive, nor need it tell the families apart.

**Both keys say the same** (`Block.compare_eq_place`).  Zeros behind an IPv4 address or the mapped
prefix in front of it leave the order of IPv4 addresses as it is, so blocks are compared by one
place for each, and by their lengths where places are equal.

**Places of different families do not tie** (`Block.eq_of_place_of_length`).  An IPv6 block with the
mapped place of an IPv4 block has ones from the eightieth bit on, so it is longer than 80 bits, and
no IPv4 block is.  Here it matters that no bit behind the length is set.

**An enclosing block comes first** (`Block.compare_of_encloses`), since its base is not above any
address that it contains and it is the shorter one where the bases are equal.
-/
import Turnstile.Proofs.Address.Containment

namespace Turnstile.Block

variable {a b : Block}

/-! ## 1. One place for each block -/

/-- The base as a number of the mapped space, where both families meet. -/
def place : Block → Nat
  | v4 n => (Address.mapped n.base).toNat
  | v6 n => n.base.toNat

/-- To scale numbers and to shift them leaves their order.  Both keys are of this form over the 32
bits of an IPv4 address. -/
theorem compare_scaled {x y k d : Nat} (hk : 0 < k) :
    Ord.compare (x * k + d) (y * k + d) = Ord.compare x y := by
  rcases Nat.lt_trichotomy x y with hlt | rfl | hgt
  · have hscaled : x * k < y * k := Nat.mul_lt_mul_of_pos_right hlt hk
    rw [Nat.compare_eq_lt.2 hlt, Nat.compare_eq_lt.2 (by omega)]
  · rw [Nat.compare_eq_eq.2 rfl, Nat.compare_eq_eq.2 rfl]
  · have hscaled : y * k < x * k := Nat.mul_lt_mul_of_pos_right hgt hk
    rw [Nat.compare_eq_gt.2 hgt, Nat.compare_eq_gt.2 (by omega)]

/-- The mapped place of an IPv4 address: its number, shifted by the ones in front. -/
theorem toNat_mapped (q : BitVec 32) :
    (Address.mapped q).toNat = q.toNat * 1 + 0xFFFF * 2 ^ 32 := by
  rw [Address.mapped, Address.toNat_joined, Nat.mul_one, Nat.add_comm]
  rfl

/-- An IPv4 address with zeros behind it: its number, scaled by the 96 bits that follow. -/
theorem toNat_append_zero (q : BitVec 32) : (q.append 0#96).toNat = q.toNat * 2 ^ 96 + 0 := by
  change (q ++ 0#96).toNat = _
  rw [BitVec.toNat_append, BitVec.toNat_zero, Nat.or_zero, Nat.shiftLeft_eq, Nat.add_zero]

/-- **Blocks are compared by their places**, whatever their families, and by their lengths at one
place.  Which key is used depends on both blocks, and this is why that does no harm. -/
theorem compare_eq_place (a b : Block) :
    a.compare b = (Ord.compare a.place b.place).then (Ord.compare a.length b.length) := by
  match a, b with
  | v4 m, v4 n =>
    have hplaces : Ord.compare (v4 m).place (v4 n).place =
        Ord.compare (m.base.append 0#96).toNat (n.base.append 0#96).toNat := by
      rw [place, place, toNat_mapped, toNat_mapped, toNat_append_zero, toNat_append_zero,
        compare_scaled (by decide), compare_scaled (by decide)]
    rw [hplaces]
    rfl
  | v4 m, v6 n => rfl
  | v6 m, v4 n => rfl
  | v6 m, v6 n => rfl

/-- The order is the lexicographic one of place and length, from which it has its laws. -/
theorem compare_eq_lex : Block.compare = compareLex (compareOn place) (compareOn length) :=
  funext fun a => funext fun b => compare_eq_place a b

instance : Std.TransCmp Block.compare := by
  rw [compare_eq_lex]
  infer_instance

/-! ## 2. No ties -/

/-- An IPv4 block and an IPv6 block differ in place or in length: with one length the IPv6 block
would have a bit of the mapped prefix behind it. -/
theorem mapped_ne_of_length {m : Network 32} {n : Network 128} (hlength : m.length = n.length) :
    Address.mapped m.base ≠ n.base := by
  intro hbase
  have hshort : n.length ≤ 80 := by
    have := m.length_le
    omega
  have hbit := n.getMsbD_base hshort
  rw [← hbase, Address.getMsbD_mapped, if_neg (by decide)] at hbit
  exact absurd hbit (by decide)

/-- **Place and length tell blocks apart**, those of different families too.  So the comparison
finds blocks equal only if they are. -/
theorem eq_of_place_of_length (hplace : a.place = b.place) (hlength : a.length = b.length) :
    a = b := by
  have hnetwork : ∀ {w : Nat} {m n : Network w}, m.base = n.base → m.length = n.length → m = n := by
    rintro w ⟨_, _, _, _⟩ ⟨_, _, _, _⟩ rfl rfl
    rfl
  match a, b with
  | v4 m, v4 n =>
    rw [place, place, toNat_mapped, toNat_mapped] at hplace
    exact congrArg v4 (hnetwork (BitVec.eq_of_toNat_eq (by omega)) hlength)
  | v4 m, v6 n => exact absurd (BitVec.eq_of_toNat_eq hplace) (mapped_ne_of_length hlength)
  | v6 m, v4 n =>
    exact absurd (BitVec.eq_of_toNat_eq hplace.symm) (mapped_ne_of_length hlength.symm)
  | v6 m, v6 n => exact congrArg v6 (hnetwork (BitVec.eq_of_toNat_eq hplace) hlength)

instance : Std.LawfulEqCmp Block.compare where
  compare_self := Std.ReflCmp.compare_self
  eq_of_compare {a b} h := by
    rw [compare_eq_place, Ordering.then_eq_eq, Nat.compare_eq_eq, Nat.compare_eq_eq] at h
    exact eq_of_place_of_length h.1 h.2

theorem compare_swap (a b : Block) : b.compare a = (a.compare b).swap :=
  Std.OrientedCmp.eq_swap

/-- Two blocks neither of which comes behind the other are the same, since the comparison is
lawful. -/
theorem eq_of_not_gt (hab : a.compare b ≠ .gt) (hba : b.compare a ≠ .gt) : a = b := by
  have hle := Ordering.ne_gt_iff_isLE.1 hab
  have hge := Ordering.ne_gt_iff_isLE.1 hba
  exact Std.LawfulEqCmp.eq_of_compare (Std.OrientedCmp.isLE_antisymm hle hge)

/-- One of two blocks does not come behind the other: a comparison and its swap are not both
`gt`. -/
theorem not_gt_or_not_gt (a b : Block) : a.compare b ≠ .gt ∨ b.compare a ≠ .gt := by
  by_cases h : a.compare b = .gt
  · have hba : b.compare a = .lt := (compare_swap a b).trans (congrArg Ordering.swap h)
    exact .inr (by rw [hba]; decide)
  · exact .inl h

/-! ## 3. Enclosing blocks -/

/-- Within a family places have the order of bases, as they are scaled and shifted alike. -/
theorem place_le (hfamily : a.family = b.family) (h : a.base.toNat ≤ b.base.toNat) :
    a.place ≤ b.place := by
  match a, b, hfamily with
  | v4 m, v4 n, _ =>
    rw [place, place, toNat_mapped, toNat_mapped]
    exact Nat.add_le_add_right (Nat.mul_le_mul_right 1 h) _
  | v6 m, v6 n, _ => exact h

/-- **A block comes before all other blocks of its family that it encloses.**  Its base is not above
theirs, and where the bases are equal it is the shorter one. -/
theorem compare_of_encloses (hne : a ≠ b) (hfamily : a.family = b.family) (h : a.Encloses b) :
    a.compare b = .lt := by
  obtain ⟨hlength, hbase⟩ := (encloses_iff hfamily).1 h
  have hinterval := (contains_iff_le (b.family_base.trans hfamily.symm)).1 hbase
  have hplace := place_le hfamily hinterval.1
  rw [compare_eq_place, Ordering.then_eq_lt, Nat.compare_eq_lt, Nat.compare_eq_eq,
    Nat.compare_eq_lt]
  rcases Nat.lt_or_eq_of_le hplace with hlt | heq
  · exact .inl hlt
  · refine .inr ⟨heq, Nat.lt_of_le_of_ne hlength fun hlength => ?_⟩
    exact hne (eq_of_place_of_length heq hlength)

/-! ## 4. Sorted lists -/

/-- No block of the list comes after a later one. -/
def Sorted (blocks : List Block) : Prop :=
  blocks.Pairwise fun a b => a.compare b ≠ .gt

/-- Every list can be sorted, by a comparison that is total and transitive. -/
theorem exists_sorted (blocks : List Block) : ∃ s, s.Perm blocks ∧ Sorted s := by
  let le : Block → Block → Bool := fun a b => (a.compare b).isLE
  have htrans : ∀ a b c, le a b = true → le b c = true → le a c = true :=
    fun a b c => Std.TransCmp.isLE_trans
  have htotal : ∀ a b, (le a b || le b a) = true := by
    intro a b
    rw [Bool.or_eq_true, ← Ordering.ne_gt_iff_isLE, ← Ordering.ne_gt_iff_isLE]
    exact not_gt_or_not_gt a b
  have hsorted := List.pairwise_mergeSort htrans htotal blocks
  exact ⟨blocks.mergeSort le, List.mergeSort_perm _ _, hsorted.imp Ordering.ne_gt_iff_isLE.2⟩

/-- **There is one result.**  Blocks that tie are equal, so their order among each other cannot be
seen. -/
theorem Sorted.unique {s t : List Block} (hs : Sorted s) (ht : Sorted t) (h : s.Perm t) : s = t :=
  h.eq_of_pairwise (fun _ _ _ _ => eq_of_not_gt) hs ht

/-- In a sorted list no block encloses an earlier one of its family, so whoever looks from the front
meets the widest block first. -/
theorem Sorted.not_encloses {before after : List Block} (h : Sorted (before ++ b :: after))
    (ha : a ∈ after) (hne : a ≠ b) (hfamily : a.family = b.family) : ¬a.Encloses b := by
  intro hencloses
  have hle := (List.pairwise_cons.1 (List.pairwise_append.1 h).2.1).1 a ha
  rw [compare_swap a b, compare_of_encloses hne hfamily hencloses] at hle
  exact hle rfl

/-- **Blocks are totally ordered, consistently with equality and containment.**  Comparison of
blocks of both families is reflexive, antisymmetric, transitive and total; it finds blocks equal
only if they are, which blocks of different families never are; and of two different blocks of one
family the one that encloses the other comes first.  So each list of blocks has one sorted
arrangement, where every block comes after all blocks of its family that enclose it. -/
theorem totally_ordered :
    (∀ a : Block, a.compare a = .eq) ∧
    (∀ a b : Block, b.compare a = (a.compare b).swap) ∧
    (∀ a b : Block, a.compare b ≠ .gt ∨ b.compare a ≠ .gt) ∧
    (∀ a b : Block, a.compare b ≠ .gt → b.compare a ≠ .gt → a = b) ∧
    (∀ a b c : Block, a.compare b ≠ .gt → b.compare c ≠ .gt → a.compare c ≠ .gt) ∧
    (∀ a b : Block, a.compare b = .eq ↔ a = b) ∧
    (∀ a b : Block, a.family ≠ b.family → a.compare b ≠ .eq) ∧
    (∀ a b : Block, a ≠ b → a.family = b.family → a.Encloses b → a.compare b = .lt) ∧
    (∀ blocks : List Block, ∃ s, s.Perm blocks ∧ Sorted s ∧
      (∀ t, t.Perm blocks → Sorted t → t = s) ∧
      ∀ before b after, s = before ++ b :: after → ∀ a ∈ after, a ≠ b → a.family = b.family →
        ¬a.Encloses b) := by
  have heq : ∀ a b : Block, a.compare b = .eq ↔ a = b :=
    fun a b => Std.LawfulEqCmp.compare_eq_iff_eq
  refine ⟨fun a => Std.ReflCmp.compare_self, compare_swap, not_gt_or_not_gt,
    fun a b => eq_of_not_gt, ?_, heq, ?_, fun a b => compare_of_encloses, ?_⟩
  · intro a b c hab hbc
    rw [Ne, Ordering.ne_gt_iff_isLE] at hab hbc ⊢
    exact Std.TransCmp.isLE_trans hab hbc
  · intro a b hfamily h
    exact hfamily (congrArg family ((heq a b).1 h))
  · intro blocks
    obtain ⟨s, hperm, hsorted⟩ := exists_sorted blocks
    refine ⟨s, hperm, hsorted, ?_, ?_⟩
    · intro t ht htsorted
      exact htsorted.unique hsorted (ht.trans hperm.symm)
    · rintro before b after rfl a ha hne hfamily
      exact hsorted.not_encloses ha hne hfamily

/-- Blocks that begin at the same place: `10.0.0.0/8`, `10.0.0.0/16` within it, and
`::ffff:a00:0/104`, which is the same block in the other family.  Beside `2001:db8::/32` they have
one arrangement. -/
theorem totally_ordered_mixed :
    ∃ tens inner forms docs : Block,
      tens.base = .v4 0x0A000000#32 ∧ tens.length = 8 ∧
      inner.base = .v4 0x0A000000#32 ∧ inner.length = 16 ∧
      forms.base = .v6 (Address.mapped 0x0A000000#32) ∧ forms.length = 104 ∧
      docs.base = .v6 0x20010DB8000000000000000000000000#128 ∧ docs.length = 32 ∧
      tens.compare inner = .lt ∧ tens.compare forms ≠ .eq ∧ tens.compare docs ≠ .gt ∧
      ∀ t : List Block, t.Perm [docs, forms, inner, tens] → Sorted t →
        t = [tens, inner, forms, docs] := by
  obtain ⟨-, -, -, -, htrans, -, hfamilies, hencloses, hsort⟩ := totally_ordered
  let tens : Block := v4 ⟨0x0A000000#32, 8, by decide, by decide⟩
  let inner : Block := v4 ⟨0x0A000000#32, 16, by decide, by decide⟩
  let forms : Block := v6 ⟨Address.mapped 0x0A000000#32, 104, by decide, by decide⟩
  let docs : Block := v6 ⟨0x20010DB8000000000000000000000000#128, 32, by decide, by decide⟩
  have hinner : tens.Encloses inner := by
    rw [encloses_v4, Network.encloses_iff]
    decide
  have hforms : tens.compare forms ≠ .gt := by decide
  have hdocs : forms.compare docs ≠ .gt := by decide
  refine ⟨tens, inner, forms, docs, rfl, rfl, rfl, rfl, rfl, rfl, rfl, rfl,
    hencloses _ _ (by decide) rfl hinner, hfamilies _ _ (by decide), htrans _ _ _ hforms hdocs, ?_⟩
  intro t ht hsorted
  obtain ⟨s, -, -, hunique, -⟩ := hsort [docs, forms, inner, tens]
  have hreversed : [tens, inner, forms, docs].Perm [docs, forms, inner, tens] :=
    (List.reverse_perm [docs, forms, inner, tens] :)
  have harranged : Sorted [tens, inner, forms, docs] := by
    unfold Sorted
    decide
  rw [hunique t ht hsorted, hunique _ hreversed harranged]

end Turnstile.Block
