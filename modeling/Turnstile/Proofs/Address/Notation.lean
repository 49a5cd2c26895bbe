/-
# The grammar of block text

What a block is written as, apart from how it is read.  `Writes cs p n` holds of a text that is an
address, the first slash and a run of digits, where the digits stand for a length that the family
has and no bit of the address behind that length is set.  `Refused cs e` is the other side, one case
for each fault in the order in which faults are looked for: a case assumes that the earlier ones do
not apply.

`read_classifies` is the result: **a text is read as a block exactly where it writes that block, and
is refused with an error exactly where that error is the first to apply**.  Both halves come from
three facts: what is written is read, what is refused is an error, and each text is one or the
other.
-/
import Mathlib
import Turnstile.Proofs.Address.Text

namespace Turnstile

open Turnstile.Text

/-! ## 1. Bits of an address -/

/-- A bit of an address, counted from the first one. -/
def Address.bit : Address → Nat → Bool
  | .v4 a, i => a.getMsbD i
  | .v6 a, i => a.getMsbD i

/-- An address is cut to a length already where none of its bits behind the length is set. -/
theorem and_networkMask_eq_self_iff {w length : Nat} (hlength : length ≤ w) (a : BitVec w) :
    a &&& networkMask w length = a ↔ ∀ i, length ≤ i → a.getMsbD i = false := by
  constructor
  · intro h i hi
    exact Network.getMsbD_base ⟨a, length, hlength, h⟩ hi
  · intro h
    refine BitVec.eq_of_getMsbD_eq fun i hi => ?_
    rw [BitVec.getMsbD_and, getMsbD_networkMask hlength]
    by_cases hshared : i < length
    · rw [decide_eq_true hshared, Bool.and_true]
    · rw [h i (Nat.le_of_not_lt hshared), Bool.false_and]

namespace Block

/-! ## 2. The grammar -/

/-- The text has a slash, and these are the characters in front of the first one and behind it. -/
structure Cut (cs front back : List Char) : Prop where
  eq : cs = front ++ '/' :: back
  first : '/' ∉ front

/-- A non-empty run of decimal digits, and the number it stands for. -/
structure Digits (cs : List Char) (n : Nat) : Prop where
  ne_nil : cs ≠ []
  decimal : ∀ c ∈ cs, c.isDigit = true
  value : Nat.ofDigitChars 10 cs 0 = n

/-- The text is a network address and a length that goes with it. -/
inductive Writes (cs : List Char) (p : Address) (n : Nat) : Prop
  | intro (front back : List Char) (cut : Cut cs front back)
      (address : Address.address? front = some p) (digits : Digits back n)
      (length_le : n ≤ p.family.width) (aligned : ∀ i, n ≤ i → p.bit i = false)

/-- The first fault of a text. -/
inductive Refused (cs : List Char) : BlockError → Prop
  | noSlash (h : '/' ∉ cs) : Refused cs (.malformed (String.ofList cs))
  | badAddress {front back : List Char} (cut : Cut cs front back)
      (h : Address.address? front = none) : Refused cs (.badAddress (String.ofList front))
  | noDigits {front back : List Char} {p : Address} (cut : Cut cs front back)
      (address : Address.address? front = some p)
      (h : back = [] ∨ ∃ c ∈ back, c.isDigit = false) :
      Refused cs (.malformed (String.ofList cs))
  | tooWide {front back : List Char} {p : Address} {n : Nat} (cut : Cut cs front back)
      (address : Address.address? front = some p) (digits : Digits back n)
      (h : 2 ^ 32 ≤ n) : Refused cs (.malformed (String.ofList cs))
  | badLength {front back : List Char} {p : Address} {n : Nat} (cut : Cut cs front back)
      (address : Address.address? front = some p) (digits : Digits back n) (narrow : n < 2 ^ 32)
      (h : p.family.width < n) : Refused cs (.badLength n p.family)
  | hostBits {front back : List Char} {p : Address} {n free i : Nat} (cut : Cut cs front back)
      (address : Address.address? front = some p) (digits : Digits back n)
      (split : n + free = p.family.width) (hi : n ≤ i) (h : p.bit i = true) :
      Refused cs (.hostBits p n free)

/-! ## 3. The parts as they are read -/

theorem splitSlash_of_cut {cs front back : List Char} (h : Cut cs front back) :
    splitSlash cs = some (front, back) :=
  h.eq ▸ splitSlash_append h.first back

theorem splitSlash_of_not_mem {cs : List Char} (h : '/' ∉ cs) : splitSlash cs = none := by
  have hall : cs.dropWhile (· != '/') = [] := by
    rw [List.dropWhile_eq_nil_iff]
    intro c hc
    rw [bne_iff_ne]
    rintro rfl
    exact h hc
  rw [splitSlash, List.span_eq_takeWhile_dropWhile, hall]

/-- A text with a slash has a first one, and the cut is made there: the reader takes later ones for
part of the length. -/
theorem exists_cut {cs : List Char} (h : '/' ∈ cs) : ∃ front back, Cut cs front back := by
  obtain ⟨front, back, heq, hfirst⟩ := List.eq_append_cons_of_mem h
  exact ⟨front, back, heq, hfirst⟩

theorem decimal?_of_digits {cs : List Char} {n : Nat} (h : Digits cs n) : decimal? cs = some n := by
  rw [decimal?, if_pos, h.value]
  simpa using ⟨h.ne_nil, h.decimal⟩

theorem decimal?_of_no_digits {cs : List Char} (h : cs = [] ∨ ∃ c ∈ cs, c.isDigit = false) :
    decimal? cs = none := by
  rw [decimal?, if_neg]
  rcases h with rfl | ⟨c, hc, hdigit⟩
  · simp
  · simpa using fun _ => ⟨c, hc, hdigit⟩

theorem make_of_long {p : Address} {n : Nat} (h : p.family.width < n) :
    make p n = .error (.badLength n p.family) := by
  rw [make, dif_neg (Nat.not_le.2 h)]

/-- An address without host bits and a length of its family make a block.  The constructor has
nothing else to object to. -/
theorem exists_make_of_aligned {p : Address} {n : Nat} (hn : n ≤ p.family.width)
    (h : ∀ i, n ≤ i → p.bit i = false) : ∃ b, make p n = .ok b := by
  rw [make, dif_pos hn]
  cases p with
  | v4 a => exact ⟨_, dif_pos ((and_networkMask_eq_self_iff hn a).2 h)⟩
  | v6 a => exact ⟨_, dif_pos ((and_networkMask_eq_self_iff hn a).2 h)⟩

/-- With a host bit set they do not, and the free bits are counted without going below zero, since a
length beyond the family's was refused before. -/
theorem make_of_hostBit {p : Address} {n free i : Nat} (hfree : n + free = p.family.width)
    (hi : n ≤ i) (h : p.bit i = true) : make p n = .error (.hostBits p n free) := by
  have hn : n ≤ p.family.width := hfree ▸ Nat.le_add_right n free
  rw [make, dif_pos hn]
  cases p with
  | v4 a =>
    have hmask : ¬a &&& networkMask 32 n = a := fun heq =>
      Bool.false_ne_true (((and_networkMask_eq_self_iff hn a).1 heq i hi).symm.trans h)
    have hcount : 32 - n = free := Nat.sub_eq_of_eq_add (hfree.symm.trans (Nat.add_comm n free))
    simp only [dif_neg hmask, hcount]
  | v6 a =>
    have hmask : ¬a &&& networkMask 128 n = a := fun heq =>
      Bool.false_ne_true (((and_networkMask_eq_self_iff hn a).1 heq i hi).symm.trans h)
    have hcount : 128 - n = free := Nat.sub_eq_of_eq_add (hfree.symm.trans (Nat.add_comm n free))
    simp only [dif_neg hmask, hcount]

/-! ## 4. The text as a whole -/

/-- Behind a good address and good digits the block is made from their values, so that what is left
to refuse is a length and the host bits. -/
theorem read_of_digits {s : String} {front back : List Char} {p : Address} {n : Nat}
    (cut : Cut (trim s.toList) front back) (address : Address.address? front = some p)
    (digits : Digits back n) (narrow : n < 2 ^ 32) : read s = make p n := by
  have hsize : n < UInt32.size := narrow
  simp only [read_eq, splitSlash_of_cut cut, address, decimal?_of_digits digits, if_pos hsize]

/-- **What is written is read.**  None of the faults applies, as each part of the grammar excludes
one of them. -/
theorem exists_read_of_writes {s : String} {p : Address} {n : Nat}
    (h : Writes (trim s.toList) p n) : ∃ b, read s = .ok b ∧ b.base = p ∧ b.length = n := by
  obtain ⟨front, back, cut, address, digits, hn, haligned⟩ := h
  have hnarrow : n < 2 ^ 32 :=
    Nat.lt_of_le_of_lt (Nat.le_trans hn p.family.width_le) (by decide)
  obtain ⟨b, hb⟩ := exists_make_of_aligned hn haligned
  refine ⟨b, ?_, make_eq_ok_iff.1 hb⟩
  rw [read_of_digits cut address digits hnarrow, hb]

/-- **What is refused is an error**, and the one that is named.  A case of the judgement carries the
parts that were read before the fault was found. -/
theorem read_of_refused {s : String} {e : BlockError} (h : Refused (trim s.toList) e) :
    read s = .error e := by
  cases h with
  | noSlash h => simp only [read_eq, splitSlash_of_not_mem h]
  | badAddress cut h => simp only [read_eq, splitSlash_of_cut cut, h]
  | noDigits cut address h =>
    simp only [read_eq, splitSlash_of_cut cut, address, decimal?_of_no_digits h]
  | @tooWide _ _ _ n cut address digits h =>
    have hsize : ¬n < UInt32.size := Nat.not_lt.2 h
    simp only [read_eq, splitSlash_of_cut cut, address, decimal?_of_digits digits, if_neg hsize]
  | badLength cut address digits narrow h =>
    rw [read_of_digits cut address digits narrow, make_of_long h]
  | @hostBits _ _ p n free _ cut address digits hfree hi h =>
    have hnarrow : n < 2 ^ 32 := by
      have hwidth := p.family.width_le
      omega
    rw [read_of_digits cut address digits hnarrow, make_of_hostBit hfree hi h]

/-- **Each text writes a block or has a first fault**: the cases follow the text from left to right,
slash, address, digits, length and host bits. -/
theorem writes_or_refused (cs : List Char) :
    (∃ p n, Writes cs p n) ∨ ∃ e, Refused cs e := by
  by_cases hslash : '/' ∈ cs
  case neg => exact .inr ⟨_, .noSlash hslash⟩
  obtain ⟨front, back, cut⟩ := exists_cut hslash
  cases haddress : Address.address? front with
  | none => exact .inr ⟨_, .badAddress cut haddress⟩
  | some p =>
    by_cases hnil : back = []
    · exact .inr ⟨_, .noDigits cut haddress (.inl hnil)⟩
    by_cases hall : ∀ c ∈ back, c.isDigit = true
    case neg =>
      obtain ⟨c, hc, hdigit⟩ := not_forall₂.1 hall
      exact .inr ⟨_, .noDigits cut haddress (.inr ⟨c, hc, Bool.eq_false_iff.2 hdigit⟩)⟩
    have digits : Digits back (Nat.ofDigitChars 10 back 0) := ⟨hnil, hall, rfl⟩
    rcases Nat.lt_or_ge (Nat.ofDigitChars 10 back 0) (2 ^ 32) with hnarrow | hwide
    · rcases Nat.lt_or_ge p.family.width (Nat.ofDigitChars 10 back 0) with hlong | hlength
      · exact .inr ⟨_, .badLength cut haddress digits hnarrow hlong⟩
      · by_cases haligned : ∀ i, Nat.ofDigitChars 10 back 0 ≤ i → p.bit i = false
        · exact .inl ⟨p, _, front, back, cut, haddress, digits, hlength, haligned⟩
        · obtain ⟨i, hi, hbit⟩ := not_forall₂.1 haligned
          exact .inr ⟨_, .hostBits cut haddress digits (Nat.add_sub_of_le hlength) hi
            (Bool.eq_true_of_not_eq_false hbit)⟩
    · exact .inr ⟨_, .tooWide cut haddress digits hwide⟩

/-- **Block text is classified by its grammar.**  A text is read as a block exactly where it writes
the block's address and length, and everything that is written is read so; it is an error exactly
where that error is the first to apply.  The text of a block reads back. -/
theorem read_classifies :
    (∀ (s : String) (b : Block), read s = .ok b ↔ Writes (trim s.toList) b.base b.length) ∧
    (∀ (s : String) (p : Address) (n : Nat), Writes (trim s.toList) p n →
      ∃ b, read s = .ok b ∧ b.base = p ∧ b.length = n) ∧
    (∀ (s : String) (e : BlockError), read s = .error e ↔ Refused (trim s.toList) e) ∧
    (∀ (p : Address) (n : Nat) (b : Block), make p n = .ok b → read b.text = .ok b) := by
  refine ⟨fun s b => ⟨fun h => ?_, fun h => ?_⟩, fun _ _ _ => exists_read_of_writes,
    fun s e => ⟨fun h => ?_, read_of_refused⟩, fun _ _ b _ => read_text b⟩
  · rcases writes_or_refused (trim s.toList) with ⟨p, n, hwrites⟩ | ⟨e, hrefused⟩
    · obtain ⟨b', hread, rfl, rfl⟩ := exists_read_of_writes hwrites
      cases h.symm.trans hread
      exact hwrites
    · cases h.symm.trans (read_of_refused hrefused)
  · obtain ⟨b', hread, hparts⟩ := exists_read_of_writes h
    have hmake : b'.base = b.base ∧ b'.length = b.length → b' = b := fun hparts =>
      Except.ok.inj ((make_eq_ok_iff.2 hparts).symm.trans b.make_base_length)
    rw [hread, hmake hparts]
  · rcases writes_or_refused (trim s.toList) with ⟨p, n, hwrites⟩ | ⟨e', hrefused⟩
    · obtain ⟨b, hread, -⟩ := exists_read_of_writes hwrites
      cases h.symm.trans hread
    · cases h.symm.trans (read_of_refused hrefused)
      exact hrefused

/-- `10.1.0/016` between blanks writes the block `10.1.0.0/16`.  `10.1/16` has a host bit set, 256
is beyond the width of a family, and 32 bits do not hold 4294967296. -/
theorem read_classifies_padded :
    (∃ b, read "\t10.1.0/016 " = .ok b ∧ b.base = .v4 0x0A010000 ∧ b.length = 16 ∧
      read b.text = .ok b) ∧
    Refused (trim "10.1/16".toList) (.hostBits (.v4 0x0A000001) 16 16) ∧
    Refused (trim "::/256".toList) (.badLength 256 .v6) ∧
    Refused (trim "::/4294967296".toList) (.malformed "::/4294967296") := by
  obtain ⟨hok, hwrites, herror, htext⟩ := read_classifies
  refine ⟨?_, (herror "10.1/16" _).1 rfl, (herror "::/256" _).1 rfl,
    (herror "::/4294967296" _).1 rfl⟩
  have hread : Writes (trim "\t10.1.0/016 ".toList) (.v4 0x0A010000) 16 :=
    (hok "\t10.1.0/016 " (.v4 ⟨0x0A010000, 16, by decide, by decide⟩)).1 rfl
  obtain ⟨b, hb, hbase, hlength⟩ := hwrites _ _ _ hread
  exact ⟨b, hb, hbase, hlength, htext _ _ b (make_eq_ok_iff.2 ⟨hbase, hlength⟩)⟩

end Block

end Turnstile
