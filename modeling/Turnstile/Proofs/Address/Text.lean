/-
# Address texts read back

The reader is lenient and the printer is not, so of the many texts that read as an address the
printer writes one.  This module proves that it is one of them: `ofString?_text` for addresses
of both families, and `read_text` for blocks.

* **Numbers** (section 1).  What is printed in a base is read back in it; digits are all that
  is printed.
* **IPv4** (section 2).  Four bytes between dots fill the places that they were taken from.
* **IPv6** (section 3).  The eight groups give the address back (`ofGroups_groups`).  Cutting
  the run that `zeroRun` found and putting zeros in its place gives the groups back
  (`zeroRun_spec`), and `::` occurs nowhere but at the cut, since no group is empty.

The characters of an address are few (`isAddressChar`), which is why its text is one word of
rule text and why blanks and slashes around it cannot be mistaken.
-/
import Mathlib.Data.List.TakeDrop
import Turnstile.Address.Printer
import Turnstile.Block.Reader
import Turnstile.Proofs.Address.Containment
import Turnstile.Proofs.Address.Segments

namespace Turnstile.Text

/-! ## 1. Numbers -/

/-- The characters of a printed number are its digits, and a digit is below the base. -/
theorem mem_toDigits {b : Nat} (hb : 1 < b) {c : Char} : ∀ {n : Nat},
    c ∈ Nat.toDigits b n → ∃ d < b, c = Nat.digitChar d := by
  intro n
  induction n using Nat.strongRecOn with
  | _ n ih =>
    intro hc
    rw [Nat.toDigits_eq_if hb] at hc
    split at hc
    · next hn => exact ⟨n, hn, List.mem_singleton.mp hc⟩
    · next hn =>
      rcases List.mem_append.mp hc with hc | hc
      · exact ih (n / b) (Nat.div_lt_self (by omega) hb) hc
      · exact ⟨n % b, Nat.mod_lt _ (by omega), List.mem_singleton.mp hc⟩

/-- A hexadecimal digit reads as its value.  There are sixteen of them, so they are tried. -/
theorem hexDigit?_digitChar : ∀ d < 16, hexDigit? (Nat.digitChar d) = some d := by
  decide

theorem inBase?_append {b m n : Nat} {cs ds : List Char} (hc : inBase? b cs = some m)
    (hd : ds.foldlM (fun n c => (hexDigit? c).bind fun d =>
      if d < b then some (b * n + d) else none) m = some n) :
    inBase? b (cs ++ ds) = some n := by
  rw [inBase?, List.foldlM_append]
  rw [inBase?] at hc
  rw [hc]
  exact hd

/-- What is printed in hexadecimal is read back, whatever the number; the bounds of groups come
later. -/
theorem inBase?_toDigits (n : Nat) : inBase? 16 (Nat.toDigits 16 n) = some n := by
  induction n using Nat.strongRecOn with
  | _ n ih =>
    rw [Nat.toDigits_eq_if (by decide)]
    split
    · next hn => simp [inBase?, hexDigit?_digitChar n hn, hn]
    · next hn =>
      have hlt : n % 16 < 16 := Nat.mod_lt _ (by decide)
      refine inBase?_append (ih (n / 16) (Nat.div_lt_self (by omega) (by decide))) ?_
      simp only [List.foldlM_cons, List.foldlM_nil, hexDigit?_digitChar _ hlt, Option.bind_some,
        if_pos hlt, Option.pure_def, Option.bind_eq_bind]
      congr 1
      omega

theorem hex?_toDigits (n : Nat) : hex? (Nat.toDigits 16 n) = some n := by
  rw [hex?, if_neg (by simp), inBase?_toDigits]

/-- A joined text holds the characters of its parts and the sign between them, and no others. -/
theorem mem_intercalate {c x : Char} : ∀ {parts : List (List Char)},
    c ∈ [x].intercalate parts → c = x ∨ ∃ part ∈ parts, c ∈ part
  | [], h => by simp at h
  | [part], h => Or.inr ⟨part, List.mem_cons_self, by simpa using h⟩
  | part :: next :: parts, h => by
    rw [List.intercalate_cons_cons, List.append_assoc] at h
    rcases List.mem_append.mp h with h | h
    · exact Or.inr ⟨part, List.mem_cons_self, h⟩
    rcases List.mem_append.mp h with h | h
    · exact Or.inl (List.mem_singleton.mp h)
    rcases mem_intercalate h with h | ⟨p, hp, h⟩
    · exact Or.inl h
    · exact Or.inr ⟨p, List.mem_cons_of_mem _ hp, h⟩

end Turnstile.Text

namespace Turnstile.Address

open Turnstile.Text

/-- The characters that addresses are printed with. -/
def isAddressChar (c : Char) : Bool :=
  (hexDigit? c).isSome || c == '.' || c == ':'

theorem isAddressChar_of_mem_toDigits {b n : Nat} (hb : 1 < b) (hle : b ≤ 16) {c : Char}
    (hc : c ∈ Nat.toDigits b n) : isAddressChar c = true := by
  obtain ⟨d, hd, rfl⟩ := mem_toDigits hb hc
  simp [isAddressChar, hexDigit?_digitChar d (by omega)]

/-- Neither sign that separates the parts of an address is a digit, so a printed number holds none
of them. -/
theorem not_mem_toDigits {b n : Nat} (hb : 1 < b) (hle : b ≤ 16) {c : Char}
    (hc : hexDigit? c = none) : c ∉ Nat.toDigits b n := by
  intro h
  obtain ⟨d, hd, rfl⟩ := mem_toDigits hb h
  rw [hexDigit?_digitChar d (by omega)] at hc
  cases hc

/-- A number of ten digits at most reads back as a piece, and bytes are such numbers. -/
theorem piece?_toDigits {n : Nat} (hn : n < 10000000000) : piece? (Nat.toDigits 10 n) = some n := by
  rw [piece?, if_pos ((Nat.length_toDigits_le_iff (by decide) (by decide)).mpr hn),
    decimal?_toDigits]

/-- A group reads back, since a number of 16 bits has four hexadecimal digits at most. -/
theorem group?_toDigits {n : Nat} (hn : n < 65536) : group? (Nat.toDigits 16 n) = some n := by
  rw [group?, if_pos ((Nat.length_toDigits_le_iff (by decide) (by decide)).mpr hn),
    hex?_toDigits]

/-! ## 2. IPv4 -/

theorem bytesOf_four (n : Nat) :
    bytesOf 4 n = [n >>> 24 % 256, n >>> 16 % 256, n >>> 8 % 256, n % 256] := rfl

/-- Numbers that are printed with dots between them are read one by one, since no number holds a
dot. -/
theorem pieces_join {read : List Char → Option Nat} {ns : List Nat} (hne : ns ≠ [])
    (hread : ∀ n ∈ ns, read (Nat.toDigits 10 n) = some n) :
    ((['.'].intercalate (ns.map (Nat.toDigits 10))).splitOn '.').mapM read = some ns := by
  have hdots : ∀ cs ∈ ns.map (Nat.toDigits 10), '.' ∉ cs := by
    intro cs hcs
    obtain ⟨n, -, rfl⟩ := List.mem_map.mp hcs
    exact not_mem_toDigits (by decide) (by decide) rfl
  rw [List.splitOn_intercalate _ hdots (by simpa using hne)]
  clear hne hdots
  induction ns with
  | nil => rfl
  | cons n ns ih =>
    obtain ⟨hn, hns⟩ := List.forall_mem_cons.1 hread
    simp [hn, ih hns]

/-- The pieces of a printed IPv4 address are its bytes, for any reader of bytes: an address is read
by one and a quad by another. -/
theorem pieces_ipv4Chars {read : List Char → Option Nat}
    (hread : ∀ n < 256, read (Nat.toDigits 10 n) = some n) (q : BitVec 32) :
    ((ipv4Chars q).splitOn '.').mapM read = some (bytesOf 4 q.toNat) := by
  refine pieces_join (by simp [bytesOf_four]) fun n hn => hread n ?_
  obtain ⟨i, -, rfl⟩ := List.mem_map.1 hn
  exact Nat.mod_lt _ (by decide)

theorem eq_dot_or_digit_of_mem_ipv4Chars {q : BitVec 32} {c : Char} (h : c ∈ ipv4Chars q) :
    c = '.' ∨ (hexDigit? c).isSome := by
  rcases mem_intercalate h with h | ⟨part, hpart, hc⟩
  · exact Or.inl h
  · obtain ⟨n, -, rfl⟩ := List.mem_map.mp hpart
    obtain ⟨d, hd, rfl⟩ := mem_toDigits (by decide) hc
    exact Or.inr (by rw [hexDigit?_digitChar d (by omega)]; rfl)

/-- There is no colon in a dotted quad, which is how the families are told apart. -/
theorem colon_not_mem_ipv4Chars (q : BitVec 32) : ':' ∉ ipv4Chars q := by
  intro h
  rcases eq_dot_or_digit_of_mem_ipv4Chars h with h | h
  · exact absurd h (by decide)
  · exact absurd h (by decide)

theorem dot_mem_ipv4Chars (q : BitVec 32) : '.' ∈ ipv4Chars q := by
  simp [ipv4Chars, bytesOf_four, List.intercalate_cons_cons]

/-- Four bytes are the number that they were taken from.  The last of the four is a segment of one
byte. -/
theorem number?_bytesOf {n : Nat} (hn : n < 4294967296) : number? (bytesOf 4 n) = some n := by
  have hpieces : bytesOf 4 n = [n >>> 24 % 256, n >>> 16 % 256, n >>> 8 % 256] ++ [n % 256] := rfl
  have hbyte : ∀ m : Nat, m % 256 < 256 := fun m => Nat.mod_lt m (by decide)
  rw [hpieces, number?_concat, if_pos ⟨by simp, by simp [hbyte], hbyte n⟩]
  simp only [placed_cons, placed_nil, Nat.shiftRight_eq_div_pow, Option.some.injEq]
  omega

/-- **A printed IPv4 address reads back**, though the reader also takes texts with fewer
segments. -/
theorem ipv4?_ipv4Chars (q : BitVec 32) : ipv4? (ipv4Chars q) = some q := by
  have hpieces := pieces_ipv4Chars (fun n hn => piece?_toDigits (n := n) (by omega)) q
  simp [ipv4?_eq, dotted?, hpieces, number?_bytesOf q.isLt]

/-! ## 3. IPv6 -/

/-- Groups behind the first one have a colon in front, so the text is built from the left like the
list. -/
theorem groupChars_cons_cons (g h : Nat) (gs : List Nat) :
    groupChars (g :: h :: gs) = Nat.toDigits 16 g ++ ':' :: groupChars (h :: gs) := by
  simp [groupChars, List.intercalate]

theorem colon_not_mem_toDigits (g : Nat) : ':' ∉ Nat.toDigits 16 g :=
  not_mem_toDigits (by decide) (by decide) rfl

theorem separable_toDigits (gs : List Nat) : Separable (gs.map (Nat.toDigits 16)) := by
  intro part hpart
  obtain ⟨g, -, rfl⟩ := List.mem_map.1 hpart
  exact ⟨Nat.toDigits_ne_nil, colon_not_mem_toDigits g⟩

/-- The parts of printed groups read as the groups, whether a quad would be allowed there or not. -/
theorem partsGroups?_toDigits (final : Bool) (gs : List Nat) (h : ∀ g ∈ gs, g < 65536) :
    partsGroups? final (gs.map (Nat.toDigits 16)) = some gs := by
  induction gs with
  | nil => rfl
  | cons g gs ih =>
    have hg := group?_toDigits (h g List.mem_cons_self)
    have hdot : '.' ∉ Nat.toDigits 16 g := not_mem_toDigits (by decide) (by decide) rfl
    have ih := ih fun x hx => h x (List.mem_cons_of_mem g hx)
    simp [partsGroups?, partGroups?, hdot, hg, ih]

/-- Printed groups read back, at either side of a gap or without one. -/
theorem run?_groupChars (final : Bool) (gs : List Nat) (h : ∀ g ∈ gs, g < 65536) :
    run? final (groupChars gs) = some gs := by
  rw [groupChars, (separable_toDigits gs).run?_join, partsGroups?_toDigits final gs h]

/-- **The run that is cut is a run of zeros**, and lies within the groups.  Which of several runs is
chosen does not matter for reading back. -/
theorem zeroRun_spec (gs : List Nat) :
    (zeroRun gs).1 + (zeroRun gs).2 ≤ gs.length ∧
      gs = gs.take (zeroRun gs).1 ++ List.replicate (zeroRun gs).2 0 ++
        gs.drop ((zeroRun gs).1 + (zeroRun gs).2) := by
  induction gs with
  | nil => exact ⟨Nat.le_refl _, rfl⟩
  | cons g gs ih =>
    rw [zeroRun]
    obtain ⟨hle, heq⟩ := ih
    generalize zeroRun gs = run at hle heq
    obtain ⟨start, length⟩ := run
    have hzerosFirst := List.takeWhile_prefix (· == 0) (l := g :: gs)
    have hzeros : (g :: gs).takeWhile (· == 0) =
        List.replicate ((g :: gs).takeWhile (· == 0)).length 0 :=
      List.eq_replicate_iff.mpr
        ⟨rfl, fun x hx => by simpa using List.all_eq_true.mp List.all_takeWhile x hx⟩
    by_cases hlong : length ≤ ((g :: gs).takeWhile (· == 0)).length
    · simp only [if_pos hlong, List.take_zero, List.nil_append, Nat.zero_add]
      exact ⟨hzerosFirst.length_le, by
        rw [← hzeros]; exact (List.prefix_iff_eq_append.mp hzerosFirst).symm⟩
    · simp only [if_neg hlong, List.length_cons]
      refine ⟨by omega, ?_⟩
      rw [Nat.add_right_comm, List.take_succ_cons, List.drop_succ_cons, List.cons_append,
        List.cons_append, ← heq]

theorem groups_eq (b : BitVec 128) :
    groups b = [b.toNat >>> 112 % 65536, b.toNat >>> 96 % 65536, b.toNat >>> 80 % 65536,
      b.toNat >>> 64 % 65536, b.toNat >>> 48 % 65536, b.toNat >>> 32 % 65536,
      b.toNat >>> 16 % 65536, b.toNat % 65536] := rfl

theorem length_groups (b : BitVec 128) : (groups b).length = 8 := rfl

theorem lt_of_mem_groups {b : BitVec 128} {g : Nat} (h : g ∈ groups b) : g < 65536 := by
  obtain ⟨i, -, rfl⟩ := List.mem_map.mp h
  exact Nat.mod_lt _ (by decide)

/-- The groups of an address stand for it, as they are its bits sixteen by sixteen. -/
theorem ofGroups_groups (b : BitVec 128) : ofGroups (groups b) = b.toNat := by
  have hlt := b.isLt
  simp only [groups_eq, ofGroups, List.foldl_cons, List.foldl_nil, Nat.shiftRight_eq_div_pow]
  omega

/-- A dotted quad stands for two groups, the high and the low half of its number. -/
theorem quadGroups?_ipv4Chars (q : BitVec 32) :
    quadGroups? (ipv4Chars q) = some [q.toNat >>> 16, q.toNat % 65536] := by
  have hlt := q.isLt
  have hbyte : ∀ n < 256, byte? (Nat.toDigits 10 n) = some n := by
    intro n hn
    simp [byte?, piece?_toDigits (n := n) (by omega), hn]
  simp only [quadGroups?, pieces_ipv4Chars hbyte, bytesOf_four, Option.bind_eq_bind,
    Option.bind_some, Nat.shiftRight_eq_div_pow, Option.some.injEq, List.cons.injEq, and_true]
  omega

/-- **A mapped address reads back**: the quad takes the place of its last two groups, and the gap
that of the five zeros in front. -/
theorem ipv6?_mapped (q : BitVec 32) :
    ipv6? ("::ffff:".toList ++ ipv4Chars q) = some (mapped q) := by
  have hsplit : splitGap ("::ffff:".toList ++ ipv4Chars q) =
      some ([], "ffff:".toList ++ ipv4Chars q) := rfl
  have hparts : ("ffff:".toList ++ ipv4Chars q).splitOn ':' = ["ffff".toList, ipv4Chars q] := by
    rw [show "ffff:".toList ++ ipv4Chars q = "ffff".toList ++ ':' :: ipv4Chars q from rfl,
      List.splitOn_append_cons_self_of_not_mem (by decide),
      List.splitOn_eq_singleton (colon_not_mem_ipv4Chars q)]
  have hfirst : partGroups? true false "ffff".toList = some [65535] := by decide
  have hquad : partGroups? true true (ipv4Chars q) = some [q.toNat >>> 16, q.toNat % 65536] := by
    simp [partGroups?, dot_mem_ipv4Chars q, quadGroups?_ipv4Chars]
  have hrun : run? true ("ffff:".toList ++ ipv4Chars q) =
      some [65535, q.toNat >>> 16, q.toNat % 65536] := by
    rw [run?, if_neg (by simp), hparts]
    simp only [partsGroups?, List.isEmpty_cons, List.isEmpty_nil, hfirst, hquad]
    rfl
  have hvalue : ofGroups [0, 0, 0, 0, 0, 65535, q.toNat >>> 16, q.toNat % 65536] =
      (mapped q).toNat := by
    rw [mapped, toNat_joined]
    simp only [ofGroups, List.foldl_cons, List.foldl_nil, Nat.shiftRight_eq_div_pow]
    change _ = 65535 * 4294967296 + q.toNat
    omega
  have hfront : run? false [] = some [] := rfl
  simp only [ipv6?_eq, ipv6Groups?, hsplit, gapped?, hfront, hrun, Option.bind_eq_bind,
    Option.bind_some]
  exact (congrArg (fun n => some (BitVec.ofNat 128 n)) hvalue).trans (by simp)

theorem ofNat_ofGroups_groups (b : BitVec 128) : BitVec.ofNat 128 (ofGroups (groups b)) = b := by
  rw [ofGroups_groups, BitVec.ofNat_toNat, BitVec.setWidth_eq]

/-- All eight groups read back, which is the case where no two groups of zeros stand side by
side. -/
theorem ipv6?_groupChars (b : BitVec 128) : ipv6? (groupChars (groups b)) = some b := by
  have hrun : run? true (groupChars (groups b)) = some (groups b) :=
    run?_groupChars _ _ fun _ => lt_of_mem_groups
  have huncut : splitGap (groupChars (groups b)) = none :=
    (separable_toDigits _).splitGap_uncut
  simp only [ipv6?_eq, ipv6Groups?, huncut, hrun, Option.bind_some]
  rw [if_pos (length_groups b), Option.map_some, ofNat_ofGroups_groups]

/-- **Groups with a run of zeros cut out read back.**  The cut leaves fewer than eight, and the
zeros that fill it are those that it took out. -/
theorem ipv6?_cut (b : BitVec 128) {start length : Nat} (hle : start + length ≤ 8)
    (hcut : 2 ≤ length) (heq : groups b = (groups b).take start ++ List.replicate length 0 ++
      (groups b).drop (start + length)) :
    ipv6? (groupChars ((groups b).take start) ++ ':' :: ':' ::
      groupChars ((groups b).drop (start + length))) = some b := by
  have hfront : run? false (groupChars ((groups b).take start)) = some ((groups b).take start) :=
    run?_groupChars _ _ fun _ hg => lt_of_mem_groups (List.mem_of_mem_take hg)
  have hback : run? true (groupChars ((groups b).drop (start + length))) =
      some ((groups b).drop (start + length)) :=
    run?_groupChars _ _ fun _ hg => lt_of_mem_groups (List.mem_of_mem_drop hg)
  have hcount : ((groups b).take start).length = start ∧
      ((groups b).drop (start + length)).length = 8 - (start + length) := by
    rw [List.length_take, List.length_drop, length_groups]
    omega
  have hzeros : 8 - ((groups b).take start).length -
      ((groups b).drop (start + length)).length = length := by omega
  have hgap : ∀ gs back, splitGap (groupChars gs ++ ':' :: ':' :: back) =
      some (groupChars gs, back) := fun gs => (separable_toDigits gs).splitGap_cut
  simp only [ipv6?_eq, ipv6Groups?, hgap, gapped?, hfront, hback, Option.bind_eq_bind,
    Option.bind_some]
  rw [if_pos (by omega), hzeros, ← heq, Option.pure_def, Option.map_some, ofNat_ofGroups_groups]

/-- **A printed IPv6 address reads back**, in each of the three ways of printing: mapped, cut or
whole. -/
theorem ipv6?_ipv6Chars (b : BitVec 128) : ipv6? (ipv6Chars b) = some b := by
  rw [ipv6Chars]
  cases hm : mapped? b with
  | some q =>
    rw [eq_mapped_of_mapped? hm]
    exact ipv6?_mapped q
  | none =>
    obtain ⟨hle, heq⟩ := zeroRun_spec (groups b)
    simp only [List.append_assoc, List.cons_append, List.nil_append]
    split
    · next hcut => exact ipv6?_cut b hle hcut heq
    · exact ipv6?_groupChars b

/-! ## 4. Either family -/

/-- **Addresses are printed with few characters**: hexadecimal digits, dots and colons.  That is why
their texts are words of a rule and parts of a block. -/
theorem isAddressChar_of_mem_chars {a : Address} {c : Char} (h : c ∈ a.chars) :
    isAddressChar c = true := by
  have hquad : ∀ {q : BitVec 32}, c ∈ ipv4Chars q → isAddressChar c = true := by
    intro q hq
    rcases eq_dot_or_digit_of_mem_ipv4Chars hq with rfl | hd
    · rfl
    · simp [isAddressChar, hd]
  have hgroups : ∀ {gs : List Nat}, c ∈ groupChars gs → isAddressChar c = true := by
    intro gs hc
    rcases mem_intercalate hc with rfl | ⟨part, hpart, hc⟩
    · rfl
    · obtain ⟨n, -, rfl⟩ := List.mem_map.mp hpart
      exact isAddressChar_of_mem_toDigits (by decide) (by decide) hc
  cases a with
  | v4 q => exact hquad h
  | v6 b =>
    simp only [chars, ipv6Chars] at h
    split at h
    · rcases List.mem_append.mp h with h | h
      · exact List.all_eq_true.mp (by decide : "::ffff:".toList.all isAddressChar = true) c h
      · exact hquad h
    · split at h
      · rcases List.mem_append.mp h with h | h
        · rcases List.mem_append.mp h with h | h
          · exact hgroups h
          · exact List.all_eq_true.mp (by decide : [':', ':'].all isAddressChar = true) c h
        · exact hgroups h
      · exact hgroups h

theorem colon_mem_ipv6Chars (b : BitVec 128) : ':' ∈ ipv6Chars b := by
  rw [ipv6Chars]
  split
  · exact List.mem_append_left _ (by decide)
  · simp only
    split
    · simp
    · rw [groups_eq, groupChars_cons_cons]
      simp

/-- No character of an address is blank, so trimming takes nothing from its text. -/
theorem isBlank_eq_false {c : Char} (h : isAddressChar c = true) : isBlank c = false := by
  have hrange : 46 ≤ c.toNat ∧ c.toNat ≤ 102 := by
    simp only [isAddressChar, hexDigit?, Bool.or_eq_true, beq_iff_eq] at h
    rcases h with (h | rfl) | rfl
    · split at h
      · next hd => exact ⟨Nat.le_trans (by decide) hd.1, Nat.le_trans hd.2 (by decide)⟩
      split at h
      · next hd => exact ⟨Nat.le_trans (by decide) hd.1, hd.2⟩
      split at h
      · next hd => exact ⟨Nat.le_trans (by decide) hd.1, Nat.le_trans hd.2 (by decide)⟩
      · cases h
    · decide
    · decide
  simp only [isBlank, Bool.or_eq_false_iff, Bool.and_eq_false_iff, decide_eq_false_iff_not,
    beq_eq_false_iff_ne]
  omega

/-- Text without blanks is trimmed already, so the trimming in front of every reader can be left out
for what was printed. -/
theorem trim_eq_self {cs : List Char} (h : ∀ c ∈ cs, isBlank c = false) : trim cs = cs := by
  have hleft : ∀ {ds : List Char}, (∀ c ∈ ds, isBlank c = false) → trimLeft ds = ds := by
    intro ds hds
    cases ds with
    | nil => rfl
    | cons d ds => rw [trimLeft, List.dropWhile_cons_of_neg (by simp [hds d])]
  rw [trim, hleft h, hleft (fun c hc => h c (List.mem_reverse.mp hc)), List.reverse_reverse]

/-- **A printed address reads back.**  The colons tell the families apart, and each family has its
own reading. -/
theorem address?_chars (a : Address) : address? a.chars = some a := by
  have htrim : trim a.chars = a.chars :=
    trim_eq_self fun c hc => isBlank_eq_false (isAddressChar_of_mem_chars hc)
  rw [address?, htrim]
  cases a with
  | v4 q =>
    have hcolon : (ipv4Chars q).contains ':' = false := by
      simpa using colon_not_mem_ipv4Chars q
    simp only [chars, hcolon, Bool.false_eq_true, if_false, ipv4?_ipv4Chars, Option.map_some]
  | v6 b =>
    have hcolon : (ipv6Chars b).contains ':' = true := by
      simpa using colon_mem_ipv6Chars b
    simp only [chars, hcolon, if_true, ipv6?_ipv6Chars, Option.map_some]

/-- **The text of an address reads back**, for every address of either family. -/
theorem ofString?_text (a : Address) : ofString? a.text = some a := by
  rw [ofString?, text, String.toList_ofList, address?_chars]

/-- No address is printed as nothing, so that its text is a word where words have a character at
least. -/
theorem chars_ne_nil (a : Address) : a.chars ≠ [] := by
  intro h
  have := address?_chars a
  rw [h] at this
  cases this

end Turnstile.Address

namespace Turnstile.Block

open Turnstile.Text Turnstile.Address

/-! ## 5. Blocks -/

/-- The characters of a block are those of an address, and one slash.  So the text of a block is a
word too, and the slash is found where it was put. -/
theorem isAddressChar_or_slash_of_mem_chars {b : Block} {c : Char} (h : c ∈ b.chars) :
    isAddressChar c = true ∨ c = '/' := by
  rcases List.mem_append.mp h with h | h
  · exact Or.inl (isAddressChar_of_mem_chars h)
  · rcases List.mem_cons.mp h with h | h
    · exact Or.inr h
    · exact Or.inl (isAddressChar_of_mem_toDigits (by decide) (by decide) h)

/-- A text is split at the first slash, and there is none in an address. -/
theorem splitSlash_append {front : List Char} (h : '/' ∉ front) (back : List Char) :
    splitSlash (front ++ '/' :: back) = some (front, back) := by
  have hfront : ∀ c ∈ front, (c != '/') = true := by
    intro c hc
    rw [bne_iff_ne]
    rintro rfl
    exact h hc
  rw [splitSlash, List.span_eq_takeWhile_dropWhile, List.takeWhile_append_of_pos hfront,
    List.dropWhile_append_of_pos hfront]
  simp

/-- **The two exits for long lengths are one**: a length that no byte can hold is one that no family
has. -/
theorem make_byteLength (address : Address) (wide : UInt32) :
    (match byteLength? wide with
      | none => .error (.badLength wide.toNat address.family)
      | some length => make address length.toNat) = make address wide.toNat := by
  have hwidth := address.family.width_le
  rw [byteLength?]
  split
  · next h =>
    split at h
    · cases h
    · next hbyte =>
      have hlong : ¬wide.toNat ≤ address.family.width := by
        have hsize : UInt8.size = 256 := rfl
        omega
      rw [make, dif_neg hlong]
  · next length h =>
    split at h
    · next hbyte =>
      cases h
      have hsame : wide.toUInt8.toNat = wide.toNat := by
        rw [UInt32.toNat_toUInt8]
        exact Nat.mod_eq_of_lt hbyte
      rw [hsame]
    · cases h

/-- Reading, with lengths as numbers: the digits behind the slash are bounded to 32 bits before the
length is compared with the family's. -/
theorem read_eq (s : String) : read s =
    match splitSlash (trim s.toList) with
    | none => .error (.malformed (String.ofList (trim s.toList)))
    | some (front, back) => match address? front with
      | none => .error (.badAddress (String.ofList front))
      | some address => match decimal? back with
        | none => .error (.malformed (String.ofList (trim s.toList)))
        | some length =>
          if length < UInt32.size then make address length
          else .error (.malformed (String.ofList (trim s.toList))) := by
  rw [read]
  cases splitSlash (trim s.toList) with
  | none => rfl
  | some parts =>
    obtain ⟨front, back⟩ := parts
    dsimp only
    cases address? front with
    | none => rfl
    | some address =>
      dsimp only [wideLength?]
      cases decimal? back with
      | none => rfl
      | some length =>
        dsimp only [Option.bind_some]
        by_cases hlt : length < UInt32.size
        · rw [if_pos hlt, if_pos hlt]
          exact (make_byteLength address _).trans (by rw [UInt32.toNat_ofNat_of_lt' hlt])
        · rw [if_neg hlt, if_neg hlt]

/-- **The text of a block reads back.**  Its base has no host bits and its length is one of its
family, so the constructor has nothing to refuse. -/
theorem read_text (b : Block) : read b.text = .ok b := by
  have hblank : ∀ c ∈ b.chars, isBlank c = false := by
    intro c hc
    rcases isAddressChar_or_slash_of_mem_chars hc with h | rfl
    · exact isBlank_eq_false h
    · rfl
  have hslash : splitSlash b.chars = some (b.base.chars, Nat.toDigits 10 b.length) :=
    splitSlash_append (fun h => absurd (isAddressChar_of_mem_chars h) (by decide)) _
  have hlt : b.length < UInt32.size :=
    Nat.lt_of_le_of_lt (Nat.le_trans b.length_le b.family.width_le) (by decide)
  simp only [read_eq, text, String.toList_ofList, trim_eq_self hblank, hslash, address?_chars,
    decimal?_toDigits, if_pos hlt, make_base_length]

end Turnstile.Block
