/-
# The search finds what there is to find

`Regex.Spans` says where an expression matches, and `Regex.isMatch` looks for a match with sets of
positions.  Here the two meet, in three steps:

* a map on sets of positions **follows** a relation on positions if it takes each set to what the
  relation reaches from it (`Follows`).  Composition, union and iteration of maps follow those of
  the relations (`Follows.comp`, `Follows.union`, `Follows.iterate`);
* `power` and `grow` stop early where a set stays as it is, and are iterates all the same
  (`power_eq_iterate`, `grow_eq_iterate`).  An expression moves forward only (`Spans.le`), so a
  chain of matches needs no more steps than it takes characters (`Chain.shorten`), and the rounds of
  `grow` are enough for a repetition without bound;
* `ends_follows`, by induction on the expression, and from it `isMatch_iff`: **a search succeeds
  exactly where some part of the text is matched**.
-/
import Mathlib
import Turnstile.Pattern.Search

namespace Turnstile

/-! ## 1. Relations on positions -/

namespace Regex

variable {step : Nat → Nat → Prop} {i j k m n : Nat}

theorem chain_zero_iff : Chain step 0 i j ↔ i = j :=
  ⟨fun h => by cases h; rfl, fun h => h ▸ .zero i⟩

theorem chain_succ_iff : Chain step (n + 1) i j ↔ ∃ k, step i k ∧ Chain step n k j :=
  ⟨fun h => by cases h with | succ hstep hrest => exact ⟨_, hstep, hrest⟩,
    fun ⟨_, hstep, hrest⟩ => .succ hstep hrest⟩

theorem chain_add_iff : Chain step (m + n) i j ↔ ∃ k, Chain step m i k ∧ Chain step n k j := by
  induction m generalizing i with
  | zero => simp [chain_zero_iff]
  | succ m ih =>
    simp only [Nat.succ_add, chain_succ_iff, ih]
    constructor
    · rintro ⟨a, hstep, b, hm, hn⟩
      exact ⟨b, ⟨a, hstep, hm⟩, hn⟩
    · rintro ⟨b, ⟨a, hstep, hm⟩, hn⟩
      exact ⟨a, hstep, b, hm, hn⟩

/-- Steps that may be left out make all shorter chains, so growing a set in rounds counts up to the
number of rounds. -/
theorem chain_reflexive_iff :
    Chain (fun i j => i = j ∨ step i j) m i j ↔ ∃ n ≤ m, Chain step n i j := by
  induction m generalizing i with
  | zero => simp [chain_zero_iff]
  | succ m ih =>
    rw [chain_succ_iff]
    constructor
    · rintro ⟨k, rfl | hstep, hrest⟩
      · obtain ⟨n, hn, hchain⟩ := ih.1 hrest
        exact ⟨n, Nat.le_succ_of_le hn, hchain⟩
      · obtain ⟨n, hn, hchain⟩ := ih.1 hrest
        exact ⟨n + 1, Nat.succ_le_succ hn, .succ hstep hchain⟩
    · rintro ⟨n, hn, hchain⟩
      cases hchain with
      | zero => exact ⟨_, .inl rfl, ih.2 ⟨0, Nat.zero_le m, .zero _⟩⟩
      | succ hstep hrest =>
        exact ⟨_, .inr hstep, ih.2 ⟨_, Nat.le_of_succ_le_succ hn, hrest⟩⟩

/-- What every step keeps between its ends, a chain does.  Here it is the order of positions and the
end of the text. -/
theorem Chain.le (hstep : ∀ i j, step i j → i ≤ j ∧ j ≤ m) (h : Chain step n i j) (hi : i ≤ m) :
    i ≤ j ∧ j ≤ m := by
  induction h with
  | zero i => exact ⟨Nat.le_refl i, hi⟩
  | succ hfirst _ ih =>
    obtain ⟨hle, hm⟩ := hstep _ _ hfirst
    obtain ⟨hrest, hm⟩ := ih hm
    exact ⟨Nat.le_trans hle hrest, hm⟩

/-- **A chain of steps forward can do without those that stay**: it then takes no more steps than it
passes positions. -/
theorem Chain.shorten (hstep : ∀ i j, step i j → i ≤ j) (h : Chain step n i j) :
    ∃ m, m + i ≤ j ∧ Chain step m i j := by
  induction h with
  | zero i => exact ⟨0, by omega, .zero i⟩
  | @succ n i k j hfirst hrest ih =>
    obtain ⟨m, hm, hchain⟩ := ih
    have hle := hstep i k hfirst
    rcases Nat.eq_or_lt_of_le hle with rfl | hlt
    · exact ⟨m, hm, hchain⟩
    · exact ⟨m + 1, by omega, .succ hfirst hchain⟩

/-- A match lies in the text, and ends where it begins or behind that.  This bounds the number of
steps a repetition can make use of. -/
theorem Spans.le {text : List Char} : ∀ {r : Regex} {i j : Nat}, r.Spans text i j →
    i ≤ j ∧ j ≤ text.length
  | .empty, i, j, h => ⟨Nat.le_of_eq h.2.symm, h.2 ▸ h.1⟩
  | .set s, i, j, h => by
    obtain ⟨rfl, c, hc, -⟩ := h
    obtain ⟨hlt, -⟩ := List.getElem?_eq_some_iff.1 hc
    exact ⟨Nat.le_succ i, hlt⟩
  | .look l, i, j, h => ⟨Nat.le_of_eq h.2.1.symm, h.2.1 ▸ h.1⟩
  | .seq a b, i, j, h => by
    obtain ⟨k, ha, hb⟩ := h
    exact ⟨Nat.le_trans ha.le.1 hb.le.1, hb.le.2⟩
  | .alt a b, i, j, h => by
    rcases h with ha | hb
    · exact ha.le
    · exact hb.le
  | .group r, i, j, h => Spans.le (r := r) h
  | .iterate r least most, i, j, h => by
    obtain ⟨hi, n, -, -, hchain⟩ := h
    exact hchain.le (fun _ _ hstep => Spans.le hstep) hi

/-- One of several expressions matches what one of them does.  There are none for an empty list,
which matches nowhere. -/
theorem spans_alts_iff {text : List Char} {i j : Nat} : ∀ rs : List Regex,
    (alts rs).Spans text i j ↔ ∃ r ∈ rs, r.Spans text i j
  | [] => by simp [alts, Spans, CharSet.mem]
  | [r] => by simp [alts]
  | r :: s :: rs => by
    rw [alts, Spans, spans_alts_iff (s :: rs), List.exists_mem_cons_iff _ r]
    exact List.cons_ne_nil s rs

theorem eq_map_set : ∀ {rs : List Regex} {sets : List CharSet}, sets? rs = some sets →
    rs = sets.map set
  | [], _, h => by
    cases h
    rfl
  | .set s :: rs, _, h => by
    obtain ⟨sets, hsets, rfl⟩ := Option.map_eq_some_iff.1 h
    rw [eq_map_set hsets, List.map_cons]

/-- **To join sets that are alternatives to each other changes no match.**  It is done for the size
of what is compiled, and this says that it may be done. -/
theorem spans_anyOf_iff {text : List Char} {i j : Nat} (rs : List Regex) :
    (anyOf rs).Spans text i j ↔ ∃ r ∈ rs, r.Spans text i j := by
  unfold anyOf
  split
  · next s t sets hsets =>
    rw [eq_map_set hsets]
    constructor
    · rintro ⟨hj, c, hc, hmem⟩
      rw [CharSet.mem_unions, List.any_eq_true] at hmem
      obtain ⟨s, hs, hmem⟩ := hmem
      exact ⟨set s, List.mem_map_of_mem hs, hj, c, hc, hmem⟩
    · rintro ⟨r, hr, hspans⟩
      obtain ⟨s, hs, rfl⟩ := List.mem_map.1 hr
      obtain ⟨hj, c, hc, hmem⟩ := hspans
      exact ⟨hj, c, hc, (CharSet.mem_unions _ c).trans (List.any_eq_true.2 ⟨s, hs, hmem⟩)⟩
  · exact spans_alts_iff rs

end Regex

/-! ## 2. Maps on sets of positions -/

namespace Route

open Regex

/-- A set of positions up to `n`. -/
def Within (n s : Nat) : Prop :=
  ∀ i, s.testBit i = true → i ≤ n

/-- The map takes a set of positions up to `n` to what the relation reaches from it. -/
def Follows (n : Nat) (step : Nat → Nat → Prop) (f : Nat → Nat) : Prop :=
  ∀ s, Within n s → ∀ j, (f s).testBit j = true ↔ ∃ i, s.testBit i = true ∧ step i j

variable {n : Nat} {step step' : Nat → Nat → Prop} {f g : Nat → Nat}

theorem Follows.congr (h : Follows n step f) (heq : ∀ i j, i ≤ n → (step i j ↔ step' i j)) :
    Follows n step' f := by
  intro s hs j
  rw [h s hs]
  exact exists_congr fun i => and_congr_right fun hi => heq i j (hs i hi)

/-- Where the relation stays among the positions, the map does.  Sets are bit sets without a bound,
so this has to be carried along. -/
theorem Follows.within (h : Follows n step f) (hstep : ∀ i j, i ≤ n → step i j → j ≤ n) {s : Nat}
    (hs : Within n s) : Within n (f s) := by
  intro j hj
  obtain ⟨i, hi, hij⟩ := (h s hs j).1 hj
  exact hstep i j (hs i hi) hij

theorem Follows.comp (hf : Follows n step f) (hg : Follows n step' g)
    (hstep : ∀ i j, i ≤ n → step i j → j ≤ n) :
    Follows n (fun i j => ∃ k, step i k ∧ step' k j) (fun s => g (f s)) := by
  intro s hs j
  rw [hg (f s) (hf.within hstep hs)]
  constructor
  · rintro ⟨k, hk, hkj⟩
    obtain ⟨i, hi, hik⟩ := (hf s hs k).1 hk
    exact ⟨i, hi, k, hik, hkj⟩
  · rintro ⟨i, hi, k, hik, hkj⟩
    exact ⟨k, (hf s hs k).2 ⟨i, hi, hik⟩, hkj⟩

theorem Follows.union (hf : Follows n step f) (hg : Follows n step' g) :
    Follows n (fun i j => step i j ∨ step' i j) (fun s => f s ||| g s) := by
  intro s hs j
  rw [Nat.testBit_or, Bool.or_eq_true, hf s hs, hg s hs, ← exists_or]
  exact exists_congr fun i => and_or_left.symm

theorem follows_id : Follows n (fun i j => i = j) (fun s => s) := by
  intro s _ j
  simp

theorem Follows.iterate (h : Follows n step f) (hstep : ∀ i j, i ≤ n → step i j → j ≤ n)
    (times : Nat) : Follows n (Chain step times) (f^[times]) := by
  induction times with
  | zero => exact follows_id.congr fun _ _ _ => chain_zero_iff.symm
  | succ times ih => exact (h.comp ih hstep).congr fun _ _ _ => chain_succ_iff.symm

/-! ## 3. Early stops -/

theorem power_eq_iterate (f : Nat → Nat) (times s : Nat) : power f times s = f^[times] s := by
  induction times generalizing s with
  | zero => rfl
  | succ times ih =>
    rw [power]
    split
    · next hfix => rw [Function.iterate_fixed hfix]
    · rw [ih, Function.iterate_succ_apply]

theorem grow_eq_iterate (f : Nat → Nat) (rounds s : Nat) :
    grow f rounds s = (fun s => s ||| f s)^[rounds] s := by
  induction rounds generalizing s with
  | zero => rfl
  | succ rounds ih =>
    rw [grow]
    split
    · next hfix => exact (Function.iterate_fixed (f := fun s => s ||| f s) hfix _).symm
    · rw [ih, Function.iterate_succ_apply]

/-- Growing reaches what some number of steps does, up to the number of rounds.  It stops early once
nothing is added, without a change to what is reached. -/
theorem Follows.grow (h : Follows n step f) (hstep : ∀ i j, i ≤ n → step i j → j ≤ n)
    (rounds : Nat) :
    Follows n (fun i j => ∃ times ≤ rounds, Chain step times i j) (Route.grow f rounds) := by
  have hrefl : ∀ i j, i ≤ n → i = j ∨ step i j → j ≤ n := by
    rintro i j hi (rfl | hij)
    · exact hi
    · exact hstep i j hi hij
  have hgrow : Route.grow f rounds = (fun s => s ||| f s)^[rounds] :=
    funext fun s => grow_eq_iterate f rounds s
  rw [hgrow]
  exact ((follows_id.union h).iterate hrefl rounds).congr fun _ _ _ => chain_reflexive_iff

/-! ## 4. Leaves -/

theorem testBit_positionsOf (bs : List Bool) (i : Nat) :
    (positionsOf bs).testBit i = true ↔ bs[i]? = some true := by
  induction bs generalizing i with
  | nil => simp [positionsOf]
  | cons b bs ih =>
    cases i with
    | zero => cases b <;> simp [positionsOf, Nat.add_mod]
    | succ i =>
      have hhalf : (2 * positionsOf bs + b.toNat) / 2 = positionsOf bs := by
        have hb : b.toNat < 2 := Bool.toNat_lt b
        omega
      rw [positionsOf, Nat.testBit_succ, hhalf, ih, List.getElem?_cons_succ]

/-- The sides of a position are the characters next to it.  At the first position it is the
character in front of the text, if there is one. -/
theorem getElem?_sides (text : List Char) (before : Option Char) {i : Nat} (hi : i ≤ text.length) :
    (sides before text)[i]? = some (if i = 0 then before else text[i - 1]?, text[i]?) := by
  induction text generalizing before i with
  | nil =>
    obtain rfl : i = 0 := Nat.le_zero.1 hi
    rfl
  | cons c cs ih =>
    cases i with
    | zero => rfl
    | succ i =>
      rw [sides, List.getElem?_cons_succ, ih (some c) (Nat.le_of_succ_le_succ hi)]
      cases i <;> simp

theorem move_follows (text : List Char) (s : CharSet) :
    Follows text.length ((Regex.set s).Spans text)
      (fun t => (t &&& positionsOf (text.map s.mem)) <<< 1) := by
  intro t _ j
  simp only [Nat.testBit_shiftLeft, Nat.testBit_and, Bool.and_eq_true, decide_eq_true_eq,
    testBit_positionsOf, List.getElem?_map, Option.map_eq_some_iff, Spans]
  constructor
  · rintro ⟨hj, ht, hc⟩
    exact ⟨j - 1, ht, by omega, hc⟩
  · rintro ⟨i, ht, rfl, hc⟩
    exact ⟨Nat.succ_pos i, ht, hc⟩

theorem only_follows (text : List Char) (l : Look) :
    Follows text.length ((Regex.look l).Spans text)
      (fun t => t &&& positionsOf ((sides none text).map fun p => l.holds p.1 p.2)) := by
  intro t ht j
  simp only [Nat.testBit_and, Bool.and_eq_true, testBit_positionsOf, List.getElem?_map, Spans]
  constructor
  · rintro ⟨hj, hholds⟩
    rw [getElem?_sides text none (ht j hj), Option.map_some, Option.some.injEq] at hholds
    exact ⟨j, hj, ht j hj, rfl, hholds⟩
  · rintro ⟨i, hi, hle, rfl, hholds⟩
    rw [getElem?_sides text none hle, Option.map_some, Option.some.injEq]
    exact ⟨hi, hholds⟩

/-! ## 5. Expressions -/

/-- A repetition as a chain of its least length and one of what may follow.  Without an upper bound,
as many steps as the text has characters are enough. -/
theorem spans_iterate_iff {text : List Char} {r : Regex} {least i j : Nat} {most : Option Nat}
    (hi : i ≤ text.length) : (∀ m, most = some m → least ≤ m) →
    ((∃ k, Chain (r.Spans text) least i k ∧
      ∃ times ≤ (match most with
        | some m => m - least
        | none => text.length + 1), Chain (r.Spans text) times k j) ↔
      (Regex.iterate r least most).Spans text i j) := by
  intro hmost
  have hforward : ∀ i j, r.Spans text i j → i ≤ j ∧ j ≤ text.length := fun _ _ h => h.le
  constructor
  · rintro ⟨k, hleast, times, htimes, hrest⟩
    refine ⟨hi, least + times, Nat.le_add_right _ _, ?_, chain_add_iff.2 ⟨k, hleast, hrest⟩⟩
    rintro m rfl
    have hm := hmost m rfl
    dsimp only at htimes
    omega
  · rintro ⟨-, times, hle, hbound, hchain⟩
    obtain ⟨more, rfl⟩ := Nat.exists_eq_add_of_le hle
    obtain ⟨k, hleast, hrest⟩ := chain_add_iff.1 hchain
    cases most with
    | some m =>
      have hm := hbound m rfl
      exact ⟨k, hleast, more, by dsimp only; omega, hrest⟩
    | none =>
      have hk := hleast.le hforward hi
      have hj := hrest.le hforward hk.2
      obtain ⟨times, htimes, hshort⟩ := hrest.shorten fun _ _ h => h.le.1
      exact ⟨k, hleast, times, by dsimp only; omega, hshort⟩

/-- **The map of an expression follows its meaning**, for every expression and any set of positions
to start from. -/
theorem ends_follows (text : List Char) (r : Regex) :
    Follows text.length (r.Spans text) ((ofRegex text r).ends (text.length + 1)) := by
  have hstays : ∀ (r : Regex) (i j : Nat), i ≤ text.length → r.Spans text i j → j ≤ text.length :=
    fun _ _ _ _ h => h.le.2
  induction r with
  | empty =>
    refine follows_id.congr fun i j hi => ?_
    simp only [Spans, hi, true_and, eq_comm]
  | set s => exact move_follows text s
  | look l => exact only_follows text l
  | seq a b iha ihb => exact iha.comp ihb (hstays a)
  | alt a b iha ihb => exact iha.union ihb
  | group r ih => exact ih
  | iterate r least most ih =>
    simp only [ofRegex, ends]
    by_cases hmost : most.any (· < least) = true
    · -- a bound below the least count: nothing matches, and no position is reached
      obtain ⟨m, rfl, hm⟩ : ∃ m, most = some m ∧ m < least := by
        cases most with
        | none => cases hmost
        | some m => exact ⟨m, rfl, by simpa using hmost⟩
      intro s _ j
      simp only [hmost, if_true, Nat.zero_testBit, Bool.false_eq_true, false_iff]
      rintro ⟨i, -, -, times, hle, hbound, -⟩
      exact absurd (hbound m rfl) (by omega)
    · have hle : ∀ m, most = some m → least ≤ m := by
        rintro m rfl
        simpa using hmost
      have hpower : power ((ofRegex text r).ends (text.length + 1)) least =
          ((ofRegex text r).ends (text.length + 1))^[least] :=
        funext fun s => power_eq_iterate _ least s
      have hleast : ∀ i j, i ≤ text.length → Chain (r.Spans text) least i j → j ≤ text.length :=
        fun i j hi h => (h.le (fun _ _ h => h.le) hi).2
      simp only [if_neg hmost, hpower]
      exact ((ih.iterate (hstays r) least).comp (ih.grow (hstays r) _) hleast).congr
        fun i j hi => spans_iterate_iff hi hle

end Route

/-- **A search succeeds exactly where some part of the text is matched.**  The whole text is one
such part, which the anchors choose. -/
theorem Regex.isMatch_iff (r : Regex) (text : List Char) :
    r.isMatch text = true ↔ ∃ i j, r.Spans text i j := by
  have hall : ∀ i, (1 <<< (text.length + 1) - 1).testBit i = true ↔ i ≤ text.length := by
    intro i
    rw [Nat.one_shiftLeft, Nat.testBit_two_pow_sub_one, decide_eq_true_eq, Nat.lt_succ_iff]
  have hends := Route.ends_follows text r _ fun i hi => (hall i).1 hi
  rw [isMatch, bne_iff_ne]
  constructor
  · intro hne
    obtain ⟨j, hj⟩ := Nat.exists_testBit_of_ne_zero hne
    obtain ⟨i, -, hspans⟩ := (hends j).1 hj
    exact ⟨i, j, hspans⟩
  · rintro ⟨i, j, hspans⟩ hzero
    obtain ⟨hle, hj⟩ := hspans.le
    have hreached := (hends j).2 ⟨i, (hall i).2 (Nat.le_trans hle hj), hspans⟩
    rw [hzero, Nat.zero_testBit] at hreached
    cases hreached

end Turnstile
