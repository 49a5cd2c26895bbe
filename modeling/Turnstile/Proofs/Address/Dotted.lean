/-
# The grammar of IPv4 text

The texts of IPv4 addresses, given as a type.  A `Dotted` is a text with its segments told apart: up
to three bytes and a last segment, each of one to ten decimal digits with dots between them, where
the last one stays below what the bytes behind the others can hold.  `Dotted.number` is the sum that
the segments stand for, each byte times the weight of its place.

* `Dotted.chars_injective`: **a text is told apart in one way at most**, so no two addresses share a
  text;
* `ipv4Bytes_reads_dotted`: **the reader accepts these texts and nothing else**, gives the bytes of
  the sum, and is never stopped.  The sum is one of 32 bits (`Dotted.number_lt`), and every number
  of 32 bits is written with each count of segments (`dotted?_spelled`).
-/
import Mathlib
import Turnstile.Proofs.Address.Text

namespace Turnstile.Ipv4

open Turnstile.Text Turnstile.Address

/-! ## 1. Dotted texts -/

/-- One to ten decimal digits. -/
@[ext]
structure Segment where
  digits : List Char
  ne_nil : digits ≠ []
  length_le : digits.length ≤ 10
  decimal : ∀ c ∈ digits, c.isDigit

/-- The number that the digits stand for. -/
def Segment.value (s : Segment) : Nat :=
  Nat.ofDigitChars 10 s.digits 0

/-- Up to three segments that stand for a byte each, and one that stands for all the bytes behind
them. -/
@[ext]
structure Dotted where
  head : List Segment
  last : Segment
  length_le : head.length ≤ 3
  bytes : ∀ s ∈ head, s.value ≤ 255
  fits : last.value < 256 ^ (4 - head.length)

namespace Dotted

/-- The segments in the order of the text. -/
def segments (d : Dotted) : List Segment :=
  d.head ++ [d.last]

/-- The text itself. -/
def chars (d : Dotted) : List Char :=
  ['.'].intercalate (d.segments.map Segment.digits)

/-- The number that the text stands for. -/
def number (d : Dotted) : Nat :=
  ∑ i : Fin d.head.length, d.head[i].value * 256 ^ (3 - i.val) + d.last.value

end Dotted

/-- A number of 32 bits in network order. -/
def networkOrder (n : Nat) : List Nat :=
  [n / 256 ^ 3, n / 256 ^ 2 % 256, n / 256 % 256, n % 256]

/-- The text of a number with `front` segments for its first bytes and one for all that is left. -/
def spelled (front n : Nat) : List Char :=
  ['.'].intercalate <| ((List.range front).map (fun i => n / 256 ^ (3 - i) % 256) ++
    [n % 256 ^ (4 - front)]).map (Nat.toDigits 10)

/-! ## 2. Segments -/

/-- **A piece is read exactly where there is a segment**, with the number of its digits.  Both ask
for one to ten of them, and ten digits are less than the accumulator can hold. -/
theorem piece?_eq_some_iff {cs : List Char} {n : Nat} :
    piece? cs = some n ↔ ∃ s : Segment, s.digits = cs ∧ s.value = n := by
  constructor
  · intro h
    rw [piece?] at h
    split at h
    · next hle =>
      rw [decimal?] at h
      split at h
      · next hdigits =>
        simp only [Bool.and_eq_true, Bool.not_eq_true', List.isEmpty_eq_false_iff,
          List.all_eq_true] at hdigits
        cases h
        exact ⟨⟨cs, hdigits.1, hle, hdigits.2⟩, rfl, rfl⟩
      · cases h
    · cases h
  · rintro ⟨s, rfl, rfl⟩
    rw [piece?, if_pos s.length_le, decimal?, if_pos]
    · rfl
    · simpa using ⟨s.ne_nil, s.decimal⟩

theorem Segment.dot_not_mem (s : Segment) : '.' ∉ s.digits := fun h =>
  absurd (s.decimal '.' h) (by decide)

/-- The sum over the bytes in front is what they come to in their places.  The reader adds up place
by place, and the grammar writes the sum over all of them. -/
theorem placed_map_value (head : List Segment) (i : Nat) :
    placed i (head.map Segment.value) =
      ∑ j : Fin head.length, head[j].value * 256 ^ (3 - (i + j.val)) := by
  induction head generalizing i with
  | nil => rfl
  | cons s head ih =>
    rw [List.map_cons, placed_cons, ih]
    refine Eq.trans ?_ (Fin.sum_univ_succ _).symm
    simp [Nat.add_assoc, Nat.add_comm 1]

namespace Dotted

/-- The segments are what stands between the dots, since no segment holds one. -/
theorem splitOn_chars (d : Dotted) : d.chars.splitOn '.' = d.segments.map Segment.digits := by
  refine List.splitOn_intercalate '.' ?_ (by simp [segments])
  intro cs hcs
  obtain ⟨s, -, rfl⟩ := List.mem_map.1 hcs
  exact s.dot_not_mem

/-- **A text is told apart in one way at most**: the dots show where the segments end, and the
digits are the segments themselves. -/
theorem chars_injective {d e : Dotted} (h : d.chars = e.chars) : d = e := by
  have hdigits := congrArg (List.splitOn '.') h
  rw [splitOn_chars, splitOn_chars] at hdigits
  have hsegments : d.segments = e.segments :=
    List.map_injective_iff.2 (fun s t hst => Segment.ext hst) hdigits
  obtain ⟨hhead, hlast⟩ := List.append_inj' hsegments rfl
  exact Dotted.ext hhead (List.singleton_injective hlast)

/-- The number of the segments is what the reader finds for their values.  The bounds that it tests
are those that the type of dotted texts asks for. -/
theorem number?_segments (d : Dotted) : number? (d.segments.map Segment.value) = some d.number := by
  rw [segments, List.map_append, List.map_singleton, number?_concat, if_pos]
  · rw [placed_map_value, number]
    simp
  · refine ⟨by simpa using d.length_le, ?_, by simpa using d.fits⟩
    simpa using fun s hs => Nat.lt_succ_of_le (d.bytes s hs)

/-- **The sum is a number of 32 bits.**  The bytes in front fill the high places, and the last
segment is below the weight of the lowest of these. -/
theorem number_lt (d : Dotted) : d.number < 2 ^ 32 :=
  number?_lt d.number?_segments

end Dotted

/-! ## 3. Whole texts -/

/-- **A number is read exactly where there is a dotted text.**  Splitting at the dots gives the
segments back, so the reader cannot take the text apart in any other way. -/
theorem dotted?_eq_some_iff {cs : List Char} {n : Nat} :
    dotted? cs = some n ↔ ∃ d : Dotted, d.chars = cs ∧ d.number = n := by
  have hpieces : ∀ values, (cs.splitOn '.').mapM piece? = some values ↔
      ∃ segments : List Segment, segments.map Segment.digits = cs.splitOn '.' ∧
        segments.map Segment.value = values := fun _ =>
    mapM_eq_some_iff_exists fun _ _ => piece?_eq_some_iff
  constructor
  · intro h
    obtain ⟨pieces, hread, hnumber⟩ := Option.bind_eq_some_iff.1 h
    obtain ⟨segments, hdigits, rfl⟩ := (hpieces pieces).1 hread
    have hne : segments ≠ [] := by
      rintro rfl
      exact List.splitOn_ne_nil '.' cs hdigits.symm
    obtain ⟨head, last, rfl⟩ : ∃ head last, segments = head ++ [last] :=
      ⟨_, _, (List.dropLast_concat_getLast hne).symm⟩
    have hfits := hnumber
    rw [List.map_append, List.map_singleton, number?_concat] at hfits
    split at hfits
    · next hbounds =>
      obtain ⟨hlength, hhead, hlast⟩ := hbounds
      rw [List.length_map] at hlength hlast
      let d : Dotted := ⟨head, last, hlength,
        fun s hs => Nat.le_of_lt_succ (hhead _ (List.mem_map_of_mem hs)), hlast⟩
      refine ⟨d, ?_, ?_⟩
      · show ['.'].intercalate ((head ++ [last]).map Segment.digits) = cs
        rw [hdigits, List.intercalate_splitOn]
      · exact Option.some.inj (d.number?_segments.symm.trans hnumber)
    · cases hfits
  · rintro ⟨d, rfl, rfl⟩
    rw [dotted?, (hpieces _).2 ⟨d.segments, d.splitOn_chars.symm, rfl⟩]
    exact d.number?_segments

/-- The first bytes of a number and what is left of it add up to the number, wherever the cut is
made. -/
theorem placed_bytes (n : Nat) {front : Nat} (hfront : front ≤ 3) :
    placed 0 ((List.range front).map fun i => n / 256 ^ (3 - i) % 256) + n % 256 ^ (4 - front) =
      n % 256 ^ 4 := by
  induction front with
  | zero => simp
  | succ front ih =>
    have ih := ih (by omega)
    have hnext : n % 256 ^ (4 - front) =
        n % 256 ^ (3 - front) + n / 256 ^ (3 - front) % 256 * 256 ^ (3 - front) := by
      rw [show 4 - front = 3 - front + 1 by omega, Nat.pow_succ, Nat.mod_mul, Nat.mul_comm]
    rw [List.range_succ, List.map_append, List.map_singleton, placed_append, placed_cons,
      placed_nil, List.length_map, List.length_range, show 4 - (front + 1) = 3 - front by omega,
      Nat.zero_add]
    omega

/-- **Every number is read back from its text with each count of segments**, so there is no address
that one of the four spellings cannot name. -/
theorem dotted?_spelled {n : Nat} (hn : n < 2 ^ 32) {front : Nat} (hfront : front ≤ 3) :
    dotted? (spelled front n) = some n := by
  have hbyte : ∀ m : Nat, m % 256 < 256 := fun m => Nat.mod_lt m (by decide)
  have hrest : n % 256 ^ (4 - front) < 256 ^ (4 - front) := Nat.mod_lt _ (Nat.pow_pos (by decide))
  have hwide : (256 : Nat) ^ (4 - front) ≤ 256 ^ 4 := Nat.pow_le_pow_right (by decide) (by omega)
  rw [dotted?, spelled, pieces_join (by simp), Option.bind_some, number?_concat, if_pos,
    placed_bytes n hfront, Nat.mod_eq_of_lt (by omega)]
  · simpa using ⟨hfront, fun i _ => hbyte _, hrest⟩
  · intro m hm
    refine piece?_toDigits ?_
    rcases List.mem_append.1 hm with hm | hm
    · obtain ⟨i, -, rfl⟩ := List.mem_map.1 hm
      exact Nat.lt_trans (hbyte _) (by decide)
    · rw [List.mem_singleton.1 hm]
      omega

theorem networkOrder_eq {n : Nat} (hn : n < 2 ^ 32) : bytesOf 4 n = networkOrder n := by
  rw [bytesOf_four, networkOrder, Nat.shiftRight_eq_div_pow, Nat.shiftRight_eq_div_pow,
    Nat.shiftRight_eq_div_pow, Nat.mod_eq_of_lt (a := n / 2 ^ 24) (by omega)]
  rfl

/-- **An address is read where there is a dotted text of its number**, and nowhere else.  Numbers of
32 bits and addresses are the same. -/
theorem ipv4?_eq_some_iff {cs : List Char} {q : BitVec 32} :
    ipv4? cs = some q ↔ ∃ d : Dotted, d.chars = cs ∧ d.number = q.toNat := by
  rw [ipv4?_eq, Option.map_eq_some_iff]
  constructor
  · rintro ⟨n, hn, rfl⟩
    obtain ⟨d, rfl, rfl⟩ := dotted?_eq_some_iff.1 hn
    exact ⟨d, rfl, by rw [BitVec.toNat_ofNat, Nat.mod_eq_of_lt d.number_lt]⟩
  · rintro ⟨d, rfl, hd⟩
    refine ⟨d.number, dotted?_eq_some_iff.2 ⟨d, rfl, rfl⟩, ?_⟩
    rw [hd, BitVec.ofNat_toNat, BitVec.setWidth_eq]

/-- Each of the four texts of an address reads back, from one segment for all of it to four segments
of a byte each. -/
theorem ipv4?_spelled (q : BitVec 32) (front : Fin 4) :
    ipv4? (spelled front q.toNat) = some q := by
  rw [ipv4?_eq, dotted?_spelled q.isLt (Nat.le_of_lt_succ front.isLt), Option.map_some,
    BitVec.ofNat_toNat, BitVec.setWidth_eq]

/-- **IPv4 text is read by its grammar.**  Bytes are the outcome exactly where the text is dotted,
and are those of the sum of its segments, which is a number of 32 bits; all other text is rejected;
and no text stops the reader, so no shift and no cast loses a bit and no place is out of bounds.  An
address is what a dotted text of its number reads as.  A text is told apart in one way at most, each
address is read from its texts with one, two, three and four segments, and none of them is one of
another address. -/
theorem ipv4Bytes_reads_dotted :
    (∀ (cs : List Char) (bytes : List Nat), (ipv4Bytes cs).run = .ok (some bytes) ↔
      ∃ d : Dotted, d.chars = cs ∧ networkOrder d.number = bytes) ∧
    (∀ d : Dotted, d.number < 2 ^ 32) ∧
    (∀ cs : List Char, (¬ ∃ d : Dotted, d.chars = cs) → (ipv4Bytes cs).run = .ok none) ∧
    (∀ (cs : List Char) (fault : Fault), (ipv4Bytes cs).run ≠ .error fault) ∧
    (∀ (cs : List Char) (q : BitVec 32), ipv4? cs = some q ↔
      ∃ d : Dotted, d.chars = cs ∧ d.number = q.toNat) ∧
    (∀ d e : Dotted, d.chars = e.chars → d = e) ∧
    (∀ (q : BitVec 32) (front : Fin 4), ipv4? (spelled front q.toNat) = some q) ∧
    (∀ (q r : BitVec 32) (front front' : Fin 4),
      spelled front q.toNat = spelled front' r.toNat → q = r) := by
  have hrun : ∀ cs, (ipv4Bytes cs).run = .ok ((dotted? cs).map (bytesOf 4)) := by
    intro cs
    rw [ipv4Bytes_eq, run_liftOption]
  refine ⟨?_, Dotted.number_lt, ?_, ?_, fun _ _ => ipv4?_eq_some_iff,
    fun _ _ => Dotted.chars_injective, ipv4?_spelled, ?_⟩
  · intro cs bytes
    rw [hrun, Except.ok.injEq, Option.map_eq_some_iff]
    constructor
    · rintro ⟨n, hn, rfl⟩
      obtain ⟨d, rfl, rfl⟩ := dotted?_eq_some_iff.1 hn
      exact ⟨d, rfl, (networkOrder_eq d.number_lt).symm⟩
    · rintro ⟨d, rfl, rfl⟩
      exact ⟨d.number, dotted?_eq_some_iff.2 ⟨d, rfl, rfl⟩, networkOrder_eq d.number_lt⟩
  · intro cs hnone
    rw [hrun]
    cases hn : dotted? cs with
    | none => rfl
    | some n =>
      obtain ⟨d, hd, -⟩ := dotted?_eq_some_iff.1 hn
      exact absurd ⟨d, hd⟩ hnone
  · intro cs fault h
    rw [hrun] at h
    cases h
  · intro q r front front' h
    have hq := ipv4?_spelled q front
    rw [h, ipv4?_spelled r front'] at hq
    exact (Option.some.inj hq).symm

/-- `10.0.00513` is dotted, `10.0.2.1` in four segments is a text of the same address, and `256.1`
is not dotted. -/
theorem ipv4Bytes_reads_dotted_shorthand :
    (∃ d : Dotted, d.chars = "10.0.00513".toList ∧ networkOrder d.number = [10, 0, 2, 1]) ∧
    spelled 3 0x0A000201 = "10.0.2.1".toList ∧ ipv4? "10.0.2.1".toList = some 0x0A000201#32 ∧
    (¬ ∃ d : Dotted, d.chars = "256.1".toList) ∧ (ipv4Bytes "256.1".toList).run = .ok none := by
  obtain ⟨hreads, -, hrejects, -, -, -, hspelled, -⟩ := ipv4Bytes_reads_dotted
  have hrejected : ¬ ∃ d : Dotted, d.chars = "256.1".toList := by
    rintro ⟨d, hd⟩
    have haccepted := (hreads "256.1".toList (networkOrder d.number)).2 ⟨d, hd, rfl⟩
    have hnone : (ipv4Bytes "256.1".toList).run = .ok none := rfl
    rw [hnone] at haccepted
    cases haccepted
  exact ⟨(hreads _ _).1 rfl, by decide, hspelled 0x0A000201#32 3, hrejected, hrejects _ hrejected⟩

end Turnstile.Ipv4
