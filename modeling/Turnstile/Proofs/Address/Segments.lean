/-
# IPv4 by segments

The reader of IPv4 text stores pieces place by place in an array of four words, cuts the array into
the bytes in front and the last segment, and puts each of them into its place of one word by a cast,
a shift and a disjunction of bits.  This module says what it computes without any of that: `dotted?`
is a function from the text to its number, and

* `ipv4Bytes_eq`: reading gives the four bytes of this number, or rejects the text where there is
  none.  **No bound is ever left and no bit is lost**, since an answer of that kind is not a fault;
* `ipv4?_eq`: the address is the number.

The disjunctions are sums (`assemble_eq`): in front of the `i`-th byte the word is a multiple of
`256 ^ (4 - i)`, and what is put into it is smaller.
-/
import Mathlib
import Turnstile.Proofs.Address.Groups

namespace Turnstile

/-! ## 1. Words and digits -/

namespace Slice

variable {α : Type} {w : Nat}

theorem split_eq {xs : List α} {i : Nat} (h : i ≤ xs.length) :
    split xs i = pure (xs.take i, xs.drop i) :=
  if_pos h

/-- A number that is small enough is kept in fewer bits.  Any other one would be a fault, since the
cast would lose the bits above. -/
theorem narrow_eq {v : Nat} {x : BitVec w} (h : x.toNat < 2 ^ v) :
    narrow v x = pure (x.setWidth v) := by
  refine if_pos (BitVec.eq_of_toNat_eq ?_)
  rw [BitVec.toNat_setWidth, BitVec.toNat_setWidth, Nat.mod_eq_of_lt h, Nat.mod_eq_of_lt x.isLt]

/-- A number that is small enough is moved with all its bits.  Any other one would be a fault, since
bits would fall out at the top. -/
theorem shiftUp_eq {x : BitVec w} {places : Nat} (hplaces : places < w)
    (h : x.toNat <<< places < 2 ^ w) : shiftUp x places = pure (x <<< places) := by
  refine if_pos ⟨hplaces, BitVec.eq_of_toNat_eq ?_⟩
  rw [BitVec.toNat_ushiftRight, BitVec.toNat_shiftLeft, Nat.mod_eq_of_lt h,
    Nat.shiftLeft_shiftRight]

end Slice

namespace Text

/-- Each digit makes room for ten times as many numbers.  The accumulator is general, as the
induction needs it. -/
theorem ofDigitChars_lt {cs : List Char} (h : ∀ c ∈ cs, c.isDigit = true) (n : Nat) :
    Nat.ofDigitChars 10 cs n < (n + 1) * 10 ^ cs.length := by
  induction cs generalizing n with
  | nil => simp
  | cons c cs ih =>
    have hc : c.toNat ≤ '9'.toNat := by
      have hdigit := h c List.mem_cons_self
      simp only [Char.isDigit, Bool.and_eq_true, decide_eq_true_eq] at hdigit
      exact hdigit.2
    have hdigit : 10 * n + (c.toNat - '0'.toNat) + 1 ≤ (n + 1) * 10 := by
      have hnine : '9'.toNat - '0'.toNat = 9 := rfl
      omega
    rw [Nat.ofDigitChars_cons]
    calc Nat.ofDigitChars 10 cs (10 * n + (c.toNat - '0'.toNat))
        < (10 * n + (c.toNat - '0'.toNat) + 1) * 10 ^ cs.length :=
          ih (fun d hd => h d (List.mem_cons_of_mem c hd)) _
      _ ≤ (n + 1) * 10 * 10 ^ cs.length := Nat.mul_le_mul_right _ hdigit
      _ = (n + 1) * 10 ^ (c :: cs).length := by
        rw [List.length_cons, Nat.pow_succ, Nat.mul_comm (10 ^ cs.length), Nat.mul_assoc]

/-- A number has no more digits than it is written with, so ten digits stay below the largest word
of 64 bits. -/
theorem decimal?_lt {cs : List Char} {n : Nat} (h : decimal? cs = some n) :
    n < 10 ^ cs.length := by
  rw [decimal?] at h
  split at h
  · next hdigits =>
    cases h
    rw [Bool.and_eq_true, List.all_eq_true] at hdigits
    have hlt := ofDigitChars_lt hdigits.2 0
    rwa [Nat.zero_add, Nat.one_mul] at hlt
  · cases h

end Text

end Turnstile

namespace Turnstile.Address

open Turnstile.Text

/-! ## 2. The number of a text -/

/-- What bytes come to in a number of four bytes, from the place of the `i`-th one. -/
def placed (i : Nat) (bytes : List Nat) : Nat :=
  ((bytes.zipIdx i).map fun (b, j) => b * 256 ^ (3 - j)).sum

@[simp] theorem placed_nil (i : Nat) : placed i [] = 0 := rfl

@[simp] theorem placed_cons (i b : Nat) (bytes : List Nat) :
    placed i (b :: bytes) = b * 256 ^ (3 - i) + placed (i + 1) bytes := by
  simp [placed]

theorem placed_append (i : Nat) (bytes more : List Nat) :
    placed i (bytes ++ more) = placed i bytes + placed (i + bytes.length) more := by
  simp [placed, List.zipIdx_append]

/-- The number that pieces stand for, of which all but the last are bytes. -/
def number? (pieces : List Nat) : Option Nat :=
  let head := pieces.dropLast
  let last := pieces.getLastD 0
  if head.length ≤ 3 ∧ (∀ b ∈ head, b < 256) ∧ last < 256 ^ (4 - head.length) then
    some (placed 0 head + last)
  else none

theorem number?_concat (head : List Nat) (last : Nat) :
    number? (head ++ [last]) =
      if head.length ≤ 3 ∧ (∀ b ∈ head, b < 256) ∧ last < 256 ^ (4 - head.length) then
        some (placed 0 head + last)
      else none := by
  simp only [number?, List.dropLast_concat, List.getLastD_concat]

/-- The number that an IPv4 text stands for. -/
def dotted? (cs : List Char) : Option Nat :=
  ((cs.splitOn '.').mapM piece?).bind number?

/-! ## 3. Pieces in their places -/

theorem piece?_lt {cs : List Char} {n : Nat} (h : piece? cs = some n) : n < 10 ^ 10 := by
  rw [piece?] at h
  split at h
  · next hle => exact Nat.lt_of_lt_of_le (decimal?_lt h) (Nat.pow_le_pow_right (by decide) hle)
  · cases h

/-- Every piece fits a word, since a piece is of ten digits at most. -/
theorem segment?_eq (cs : List Char) : segment? cs = (piece? cs).map (BitVec.ofNat 64) := by
  rw [segment?]
  cases h : piece? cs with
  | none => rfl
  | some n =>
    have hn : n < UInt64.size := Nat.lt_trans (piece?_lt h) (by decide)
    simp [hn]

/-- **Segments are stored one behind the other**, as long as there is a place for them, and a fifth
is rejected before it would be stored. -/
theorem storeSegments_eq (parts : List (List Char)) :
    ∀ (segments : List (BitVec 64)) (count : Nat), segments.length = 4 → count ≤ 4 →
    storeSegments segments count parts = liftOption ((parts.mapM piece?).bind fun pieces =>
      if count + pieces.length ≤ 4 then
        some (segments.take count ++ pieces.map (BitVec.ofNat 64) ++
          segments.drop (count + pieces.length), count + pieces.length)
      else none) := by
  induction parts with
  | nil =>
    intro segments count hlength hcount
    simp [storeSegments, hcount]
  | cons part parts ih =>
    intro segments count hlength hcount
    rw [storeSegments, List.mapM_cons, segment?_eq, hlength]
    cases piece? part with
    | none => by_cases hfull : count = 4 <;> simp [hfull]
    | some n =>
      by_cases hfull : count = 4
      · cases parts.mapM piece? with
        | none => simp [hfull]
        | some pieces => simp [hfull]
      · have hset : Slice.set segments count (BitVec.ofNat 64 n) =
            pure (segments.set count (BitVec.ofNat 64 n)) := Slice.set_eq (by omega) _
        have htake : (segments.set count (BitVec.ofNat 64 n)).take (count + 1) =
            segments.take count ++ [BitVec.ofNat 64 n] := by
          rw [List.take_add_one, List.take_set_of_le (Nat.le_refl count)]
          simp [show count < segments.length by omega]
        have hdrop : ∀ k, (segments.set count (BitVec.ofNat 64 n)).drop (count + (k + 1)) =
            segments.drop (count + (k + 1)) := fun k => List.drop_set_of_lt (by omega)
        have ih := ih (segments.set count (BitVec.ofNat 64 n)) (count + 1) (by simpa) (by omega)
        rw [htake] at ih
        simp only [if_neg hfull, Option.map_some, liftOption_some, pure_bind, hset, ih]
        cases parts.mapM piece? with
        | none => rfl
        | some pieces =>
          have hplaces : count + 1 + pieces.length = count + (pieces.length + 1) := by omega
          simp [hplaces, hdrop]

/-! ## 4. Bytes in one word -/

section Bytes

variable {b i : Nat}

theorem toNat_byte (hb : b < 256) : ((BitVec.ofNat 64 b).setWidth 32).toNat = b := by
  rw [BitVec.toNat_setWidth, BitVec.toNat_ofNat]
  omega

/-- A byte that is moved stays below the place above it, so that no two bytes meet in the word. -/
theorem shiftLeft_byte_lt (hb : b < 256) (places : Nat) : b <<< places < 2 ^ (places + 8) := by
  rw [Nat.shiftLeft_eq, Nat.mul_comm, Nat.pow_add]
  exact Nat.mul_lt_mul_of_pos_left hb (Nat.two_pow_pos _)

/-- **A byte is moved to its place with all its bits.**  There are three places in front of the last
segment, and the highest of them ends at the top of the word. -/
theorem shiftUp_byte (hb : b < 256) (hi : i ≤ 2) :
    Slice.shiftUp ((BitVec.ofNat 64 b).setWidth 32) (24 - 8 * i) =
      pure ((BitVec.ofNat 64 b).setWidth 32 <<< (24 - 8 * i)) := by
  refine Slice.shiftUp_eq (by omega) ?_
  rw [toNat_byte hb]
  exact Nat.lt_of_lt_of_le (shiftLeft_byte_lt hb _)
    (Nat.pow_le_pow_right (by decide) (by omega))

/-- **To put a byte into a word is to add it**, since what is in the word stands above its place.
That is the divisibility in the hypothesis. -/
theorem toNat_or_byte (hb : b < 256) (hi : i ≤ 2) {value : BitVec 32}
    (hempty : 256 ^ (4 - i) ∣ value.toNat) :
    (value ||| (BitVec.ofNat 64 b).setWidth 32 <<< (24 - 8 * i)).toNat =
      value.toNat + b * 256 ^ (3 - i) := by
  have hplace : (256 : Nat) ^ (3 - i) = 2 ^ (24 - 8 * i) := by
    rw [show 24 - 8 * i = 8 * (3 - i) by omega, Nat.pow_mul]
  have habove : (256 : Nat) ^ (4 - i) = 2 ^ (24 - 8 * i + 8) := by
    rw [show 24 - 8 * i + 8 = 8 * (4 - i) by omega, Nat.pow_mul]
  have hfits := shiftLeft_byte_lt hb (24 - 8 * i)
  have hwide : (2 : Nat) ^ (24 - 8 * i + 8) ≤ 2 ^ 32 := Nat.pow_le_pow_right (by decide) (by omega)
  obtain ⟨a, ha⟩ := hempty
  rw [BitVec.toNat_or, BitVec.toNat_shiftLeft, toNat_byte hb, Nat.mod_eq_of_lt (by omega), ha,
    habove, ← Nat.two_pow_add_eq_or_of_lt hfits, Nat.shiftLeft_eq, hplace]

end Bytes

/-- **Bytes are put into a word as into a sum.**  Below the place of the next byte the word is
empty, before and behind, which is the invariant of the loop. -/
theorem assemble_eq (bytes : List Nat) (hbytes : ∀ b ∈ bytes, b < 256) :
    ∀ (i : Nat) (value : BitVec 32), i + bytes.length ≤ 3 → 256 ^ (4 - i) ∣ value.toNat →
    ∃ word, assemble i value (bytes.map (BitVec.ofNat 64)) = pure word ∧
      word.toNat = value.toNat + placed i bytes ∧ 256 ^ (4 - (i + bytes.length)) ∣ word.toNat := by
  induction bytes with
  | nil => exact fun i value _ hempty => ⟨value, rfl, rfl, hempty⟩
  | cons b bytes ih =>
    intro i value hroom hempty
    rw [List.length_cons] at hroom
    obtain ⟨hb, hbytes⟩ := List.forall_mem_cons.1 hbytes
    have hi : i ≤ 2 := by omega
    have hsum := toNat_or_byte hb hi hempty
    have hnext : 256 ^ (4 - (i + 1)) ∣
        (value ||| (BitVec.ofNat 64 b).setWidth 32 <<< (24 - 8 * i)).toNat := by
      rw [hsum, show 4 - (i + 1) = 3 - i by omega]
      rw [show 4 - i = 3 - i + 1 by omega, Nat.pow_succ] at hempty
      exact Nat.dvd_add (dvd_of_mul_right_dvd hempty) (Nat.dvd_mul_left _ _)
    obtain ⟨word, hword, hnumber, hbelow⟩ := ih hbytes (i + 1) _ (by omega) hnext
    refine ⟨word, ?_, ?_, ?_⟩
    · have hnarrow : Slice.narrow 32 (BitVec.ofNat 64 b) =
          pure ((BitVec.ofNat 64 b).setWidth 32) := by
        refine Slice.narrow_eq ?_
        rw [BitVec.toNat_ofNat]
        omega
      rw [List.map_cons, assemble, hnarrow, Slice.minus_eq (by omega)]
      simp only [pure_bind, shiftUp_byte hb hi]
      exact hword
    · rw [hnumber, hsum, placed_cons, Nat.add_assoc]
    · rwa [show i + 1 + bytes.length = i + (b :: bytes).length by simp; omega] at hbelow

theorem toNat_ofNat_of_lt {n : Nat} (h : n < 10 ^ 10) : (BitVec.ofNat 64 n).toNat = n := by
  rw [BitVec.toNat_ofNat]
  omega

/-- **Segments are joined if they are bytes in front and the last one fits behind them.**  Otherwise
the text is rejected, before anything is moved. -/
theorem joinSegments_eq {head : List Nat} {last : Nat} (hlength : head.length ≤ 3)
    (hhead : ∀ b ∈ head, b < 10 ^ 10) (hlast : last < 10 ^ 10) :
    joinSegments (head.map (BitVec.ofNat 64)) [BitVec.ofNat 64 last] =
      if (∀ b ∈ head, b < 256) ∧ last < 256 ^ (4 - head.length) then do
        let value ← assemble 0 0 (head.map (BitVec.ofNat 64))
        return value ||| (← Slice.narrow 32 (BitVec.ofNat 64 last))
      else failure := by
  have hbytes : (head.map (BitVec.ofNat 64)).any (255 < ·) = false ↔ ∀ b ∈ head, b < 256 := by
    have hwide : ∀ b ∈ head, ¬255 < BitVec.ofNat 64 b ↔ b < 256 := by
      intro b hb
      rw [BitVec.lt_def, toNat_ofNat_of_lt (hhead b hb), Nat.not_lt]
      exact Nat.lt_succ_iff.symm
    simp only [List.any_map, List.any_eq_false, Function.comp_apply, decide_eq_true_eq]
    exact forall_congr' fun b => imp_congr_right fun hb => hwide b hb
  have hpower : (1 : BitVec 64).toNat <<< (8 * (4 - head.length)) = 256 ^ (4 - head.length) := by
    rw [Nat.shiftLeft_eq, Nat.pow_mul]
    exact Nat.one_mul _
  have hroom : (256 : Nat) ^ (4 - head.length) ≤ 256 ^ 4 :=
    Nat.pow_le_pow_right (by decide) (by omega)
  have hlimit : Slice.shiftUp (1 : BitVec 64) (8 * (4 - head.length)) =
      pure ((1 : BitVec 64) <<< (8 * (4 - head.length))) :=
    Slice.shiftUp_eq (by omega) (by rw [hpower]; omega)
  have hle : (1 : BitVec 64) <<< (8 * (4 - head.length)) ≤ BitVec.ofNat 64 last ↔
      ¬last < 256 ^ (4 - head.length) := by
    rw [BitVec.le_def, BitVec.toNat_shiftLeft, hpower, toNat_ofNat_of_lt hlast,
      Nat.mod_eq_of_lt (by omega), Nat.not_lt]
  have hget : Slice.get [BitVec.ofNat 64 last] 0 = pure (BitVec.ofNat 64 last) := rfl
  rw [joinSegments]
  by_cases hb : ∀ b ∈ head, b < 256
  · rw [hbytes.2 hb, if_neg Bool.false_ne_true, hget, List.length_map, Slice.minus_eq (by omega)]
    simp only [pure_bind, hlimit, hle]
    by_cases hl : last < 256 ^ (4 - head.length)
    · rw [if_neg fun h => h hl, if_pos ⟨hb, hl⟩]
    · rw [if_pos hl, if_neg fun h => hl h.2]
  · rw [if_pos (Bool.of_not_eq_false fun h => hb (hbytes.1 h)), if_neg fun h => hb h.1]

/-- What segments are joined into is their number, with the last segment added below the bytes in
front. -/
theorem exists_joined {head : List Nat} {last : Nat} (hlength : head.length ≤ 3)
    (hhead : ∀ b ∈ head, b < 256) (hlast : last < 256 ^ (4 - head.length)) :
    ∃ word : BitVec 32,
      joinSegments (head.map (BitVec.ofNat 64)) [BitVec.ofNat 64 last] = pure word ∧
      word.toNat = placed 0 head + last := by
  have hroom : (256 : Nat) ^ (4 - head.length) ≤ 256 ^ 4 :=
    Nat.pow_le_pow_right (by decide) (by omega)
  obtain ⟨value, hvalue, hnumber, a, ha⟩ :=
    assemble_eq head hhead 0 0 (by omega) (by simp)
  rw [Nat.zero_add] at ha
  have hsegment : (BitVec.ofNat 64 last).toNat = last := toNat_ofNat_of_lt (by omega)
  have hnarrow : Slice.narrow 32 (BitVec.ofNat 64 last) =
      pure ((BitVec.ofNat 64 last).setWidth 32) := Slice.narrow_eq (by omega)
  refine ⟨value ||| (BitVec.ofNat 64 last).setWidth 32, ?_, ?_⟩
  · rw [joinSegments_eq hlength (fun b hb => Nat.lt_trans (hhead b hb) (by decide)) (by omega),
      if_pos ⟨hhead, hlast⟩, hvalue, hnarrow]
    rfl
  · have hpower : (256 : Nat) ^ (4 - head.length) = 2 ^ (8 * (4 - head.length)) := by
      rw [Nat.pow_mul]
    rw [BitVec.toNat_or, BitVec.toNat_setWidth, hsegment, Nat.mod_eq_of_lt (by omega), ha, hpower,
      ← Nat.two_pow_add_eq_or_of_lt (by omega), ← hpower, ← ha, hnumber]
    simp

/-- A number of four bytes is one of 32 bits: the bytes in front fill the high places, and the last
piece the rest. -/
theorem number?_lt {pieces : List Nat} {n : Nat} (h : number? pieces = some n) : n < 2 ^ 32 := by
  rw [number?] at h
  split at h
  · next hfits =>
    cases h
    obtain ⟨word, -, hword⟩ := exists_joined hfits.1 hfits.2.1 hfits.2.2
    rw [← hword]
    exact word.isLt
  · cases h

/-! ## 5. The address -/

/-- The last byte of a number and those in front of it, which are the bytes of what is left when it
is divided. -/
theorem bytesOf_succ (places n : Nat) :
    bytesOf (places + 1) n = bytesOf places (n / 256) ++ [n % 256] := by
  have hshift : ∀ i, n >>> (8 * (i + 1)) % 256 = (n / 256) >>> (8 * i) % 256 := by
    intro i
    rw [Nat.mul_add, Nat.add_comm, Nat.shiftRight_add, Nat.shiftRight_eq_div_pow n (8 * 1)]
  simp [bytesOf, List.range_succ_eq_map, hshift]

/-- A number is told from its bytes, as far as there are places for them; what is beyond the places
is lost. -/
theorem ofBytes_bytesOf (places n : Nat) : ofBytes (bytesOf places n) = n % 256 ^ places := by
  induction places generalizing n with
  | zero => simp [bytesOf, ofBytes, Nat.mod_one]
  | succ places ih =>
    have hlast : ofBytes (bytesOf places (n / 256) ++ [n % 256]) =
        ofBytes (bytesOf places (n / 256)) * 256 + n % 256 := by simp [ofBytes]
    rw [bytesOf_succ, hlast, ih, Nat.pow_succ', Nat.mod_mul]
    omega

/-- Pieces are as many as the parts that they are read from, and small, so that they can be stored
as words. -/
theorem length_and_lt_of_mapM_piece? {parts : List (List Char)} : ∀ {pieces : List Nat},
    parts.mapM piece? = some pieces →
      pieces.length = parts.length ∧ ∀ n ∈ pieces, n < 10 ^ 10 := by
  induction parts with
  | nil =>
    intro pieces h
    cases h
    exact ⟨rfl, fun n hn => absurd hn List.not_mem_nil⟩
  | cons part parts ih =>
    intro pieces h
    rw [List.mapM_cons] at h
    obtain ⟨n, hn, h⟩ := Option.bind_eq_some_iff.1 h
    obtain ⟨rest, hrest, h⟩ := Option.bind_eq_some_iff.1 h
    cases h
    obtain ⟨hlength, hlt⟩ := ih hrest
    exact ⟨congrArg (· + 1) hlength, List.forall_mem_cons.2 ⟨piece?_lt hn, hlt⟩⟩

/-- **Reading leaves no bound, loses no bit and gives the bytes of the number.**  This holds of
every text, whether it is an address or not. -/
theorem ipv4Bytes_eq (cs : List Char) :
    ipv4Bytes cs = liftOption ((dotted? cs).map (bytesOf 4)) := by
  by_cases hnil : cs = []
  · subst hnil
    rfl
  rw [ipv4Bytes, if_neg (by simpa using hnil), storeSegments_eq _ _ _ (by simp) (by decide),
    dotted?]
  cases hpieces : (cs.splitOn '.').mapM piece? with
  | none => rfl
  | some pieces =>
    obtain ⟨hlength, hlt⟩ := length_and_lt_of_mapM_piece? hpieces
    have hne : pieces ≠ [] := by
      rintro rfl
      exact List.splitOn_ne_nil '.' cs (List.eq_nil_of_length_eq_zero hlength.symm)
    obtain ⟨head, last, rfl⟩ : ∃ head last, pieces = head ++ [last] :=
      ⟨_, _, (List.dropLast_concat_getLast hne).symm⟩
    rw [List.forall_mem_append, List.forall_mem_singleton] at hlt
    by_cases hfour : head.length ≤ 3
    · have hfilled : ∀ rest, Slice.split ((head ++ [last]).map (BitVec.ofNat 64) ++ rest)
          (head.length + 1) = pure ((head ++ [last]).map (BitVec.ofNat 64), rest) := by
        intro rest
        rw [Slice.split_eq (by simp), List.take_left' (by simp), List.drop_left' (by simp)]
      have hlast : Slice.split ((head ++ [last]).map (BitVec.ofNat 64)) head.length =
          pure (head.map (BitVec.ofNat 64), [BitVec.ofNat 64 last]) := by
        rw [Slice.split_eq (by simp), List.map_append, List.take_left' (by simp),
          List.drop_left' (by simp)]
        rfl
      have hcount : 0 + (head ++ [last]).length = head.length + 1 := by simp
      have hminus : Slice.minus (head.length + 1) 1 = pure head.length := Slice.minus_eq (by omega)
      simp only [Option.bind_some, hcount, if_pos (Nat.succ_le_succ hfour), List.take_zero,
        List.nil_append, liftOption_some, pure_bind, hfilled, hminus, hlast, number?_concat]
      by_cases hfits : (∀ b ∈ head, b < 256) ∧ last < 256 ^ (4 - head.length)
      · obtain ⟨word, hword, hnumber⟩ := exists_joined hfour hfits.1 hfits.2
        rw [if_pos ⟨hfour, hfits⟩, hword, pure_bind, hnumber]
        rfl
      · rw [if_neg fun h => hfits h.2, joinSegments_eq hfour hlt.1 hlt.2, if_neg hfits]
        rfl
    · have hnone : number? (head ++ [last]) = none := by
        rw [number?_concat, if_neg fun h => hfour h.1]
      rw [Option.bind_some, Option.bind_some, if_neg (by simp; omega), hnone]
      rfl

/-- **The address of a text is its number**, so nothing of arrays, casts and shifts is left in what
an IPv4 text means. -/
theorem ipv4?_eq (cs : List Char) : ipv4? cs = (dotted? cs).map (BitVec.ofNat 32) := by
  rw [ipv4?, ipv4Bytes_eq, run_liftOption]
  cases hn : dotted? cs with
  | none => rfl
  | some n =>
    obtain ⟨pieces, -, hpieces⟩ := Option.bind_eq_some_iff.1 hn
    have hbytes : ofBytes (bytesOf 4 n) = n :=
      (ofBytes_bytesOf 4 n).trans (Nat.mod_eq_of_lt (number?_lt hpieces))
    simp only [Option.map_some, hbytes]

end Turnstile.Address
