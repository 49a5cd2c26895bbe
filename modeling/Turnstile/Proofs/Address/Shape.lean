/-
# The grammar of IPv6 text

The texts of IPv6 addresses, given as a type.  A `Shape` is a text with its parts told apart: eight
groups with colons between them, or a head and a tail around `::` with seven groups at most.  A
group is one to four hexadecimal digits, and the last component of the whole text may be a dotted
quad, which counts for two groups.  What the type holds is well formed, so the grammar is the set of
`Shape.chars`, and `Shape.bytes` says what each text means.

* `Shape.chars_injective`: **a text has one shape at most**.  `::` is found nowhere but at the gap,
  since no component is empty; colons are found only between components and dots only in a quad.
* `run?_eq_some_iff` and `ipv6Groups?_eq_some_iff`: the reader of groups accepts exactly the shapes.
* `ipv6Bytes_reads_shapes`: **the reader of bytes accepts them and nothing else**, and is never
  stopped.
-/
import Mathlib
import Turnstile.Proofs.Address.Segments

namespace Turnstile.Ipv6

open Turnstile.Text Turnstile.Address

/-! ## 1. Shapes -/

/-- One to four hexadecimal digits of either case. -/
@[ext]
structure Group where
  digits : List Char
  ne_nil : digits ≠ []
  length_le : digits.length ≤ 4
  hex : ∀ c ∈ digits, (hexDigit? c).isSome

/-- A number with one more hexadecimal digit behind it. -/
def appendHex (n : Nat) (c : Char) : Nat :=
  16 * n + (hexDigit? c).getD 0

/-- The number that the digits stand for. -/
def Group.value (g : Group) : Nat :=
  g.digits.foldl appendHex 0

/-- One to ten decimal digits that stand for a byte. -/
@[ext]
structure Octet where
  digits : List Char
  ne_nil : digits ≠ []
  length_le : digits.length ≤ 10
  decimal : ∀ c ∈ digits, c.isDigit
  le : Nat.ofDigitChars 10 digits 0 ≤ 255

/-- The byte that the digits stand for. -/
def Octet.value (o : Octet) : Nat :=
  Nat.ofDigitChars 10 o.digits 0

/-- Four bytes with dots between them. -/
@[ext]
structure Quad where
  a : Octet
  b : Octet
  c : Octet
  d : Octet

namespace Quad

/-- The text of a quad. -/
def chars (q : Quad) : List Char :=
  ['.'].intercalate [q.a.digits, q.b.digits, q.c.digits, q.d.digits]

/-- The two groups that a quad stands for. -/
def values (q : Quad) : List Nat :=
  [q.a.value * 256 + q.b.value, q.c.value * 256 + q.d.value]

end Quad

/-- Components that stand between colons: groups, and where the run is the `final` one of its text
possibly a quad as the last of them. -/
inductive Run : (final : Bool) → Type where
  | empty {final : Bool} : Run final
  | quad (q : Quad) : Run true
  | group {final : Bool} (g : Group) (rest : Run final) : Run final

namespace Run

/-- The texts of the components. -/
def parts {final : Bool} : Run final → List (List Char)
  | empty => []
  | quad q => [q.chars]
  | group g rest => g.digits :: rest.parts

/-- The groups that the components stand for. -/
def values {final : Bool} : Run final → List Nat
  | empty => []
  | quad q => q.values
  | group g rest => g.value :: rest.values

/-- The text of a run. -/
def chars {final : Bool} (r : Run final) : List Char :=
  [':'].intercalate r.parts

end Run

/-- An IPv6 text with its parts told apart. -/
inductive Shape where
  /-- Eight groups. -/
  | whole (run : Run true) (eight : run.values.length = 8)
  /-- Groups on both sides of `::`, where at least one group is left out. -/
  | gapped (head : Run false) (tail : Run true)
      (seven : head.values.length + tail.values.length ≤ 7)

namespace Shape

/-- The text itself. -/
def chars : Shape → List Char
  | whole run _ => run.chars
  | gapped head tail _ => head.chars ++ "::".toList ++ tail.chars

/-- The eight groups, with zeros in the place of `::`. -/
def values : Shape → List Nat
  | whole run _ => run.values
  | gapped head tail _ =>
    head.values ++ List.replicate (8 - head.values.length - tail.values.length) 0 ++ tail.values

/-- The groups in network order. -/
def bytes (s : Shape) : List Nat :=
  s.values.flatMap groupBytes

end Shape

/-! ## 2. Components -/

/-- A digit is below the base, so the test of the reader on top of it never rejects a hexadecimal
digit. -/
theorem hexDigit?_lt {c : Char} {d : Nat} (h : hexDigit? c = some d) : d < 16 := by
  have hnine : '9'.toNat - '0'.toNat < 16 := by decide
  have hlower : 'f'.toNat - 'a'.toNat + 10 < 16 := by decide
  have hupper : 'F'.toNat - 'A'.toNat + 10 < 16 := by decide
  rw [hexDigit?] at h
  split at h
  · next hc =>
    have hle : c.toNat ≤ '9'.toNat := hc.2
    cases h
    omega
  split at h
  · next hc =>
    have hle : c.toNat ≤ 'f'.toNat := hc.2
    cases h
    omega
  split at h
  · next hc =>
    have hle : c.toNat ≤ 'F'.toNat := hc.2
    cases h
    omega
  · cases h

/-- Hexadecimal digits are read from the left.  The reader may fail at each of them, and the grammar
asks for all of them first and then adds up. -/
theorem foldlM_hex_eq_some_iff {cs : List Char} : ∀ {m n : Nat},
    cs.foldlM (fun n c => (hexDigit? c).bind fun d => if d < 16 then some (16 * n + d) else none)
      m = some n ↔
    (∀ c ∈ cs, (hexDigit? c).isSome) ∧ cs.foldl appendHex m = n := by
  induction cs with
  | nil => simp
  | cons c cs ih =>
    intro m n
    cases hc : hexDigit? c with
    | none => simp [hc]
    | some d => simp [hc, hexDigit?_lt hc, ih, appendHex]

/-- **A group is read exactly where there is one**: one to four hexadecimal digits, with the number
that they stand for. -/
theorem group?_eq_some_iff {cs : List Char} {n : Nat} :
    group? cs = some n ↔ ∃ g : Group, g.digits = cs ∧ g.value = n := by
  constructor
  · intro h
    rw [group?] at h
    split at h
    · next hle =>
      rw [hex?] at h
      split at h
      · cases h
      · next hne =>
        obtain ⟨hhex, hvalue⟩ := foldlM_hex_eq_some_iff.1 h
        exact ⟨⟨cs, by simpa using hne, hle, hhex⟩, rfl, hvalue⟩
    · cases h
  · rintro ⟨g, rfl, rfl⟩
    rw [group?, if_pos g.length_le, hex?, if_neg (by simpa using g.ne_nil)]
    exact foldlM_hex_eq_some_iff.2 ⟨g.hex, rfl⟩

/-- **A byte is read exactly where there is one**, with zeros in front or without, up to ten digits
in all. -/
theorem byte?_eq_some_iff {cs : List Char} {n : Nat} :
    byte? cs = some n ↔ ∃ o : Octet, o.digits = cs ∧ o.value = n := by
  constructor
  · intro h
    obtain ⟨m, hm, hlt⟩ := Option.bind_eq_some_iff.1 h
    rw [piece?] at hm
    split at hm
    · next hle =>
      rw [decimal?] at hm
      split at hm
      · next hdigits =>
        simp only [Bool.and_eq_true, Bool.not_eq_true', List.isEmpty_eq_false_iff,
          List.all_eq_true] at hdigits
        cases hm
        split at hlt
        · next hbyte =>
          cases hlt
          exact ⟨⟨cs, hdigits.1, hle, hdigits.2, by omega⟩, rfl, rfl⟩
        · cases hlt
      · cases hm
    · cases hm
  · rintro ⟨o, rfl, rfl⟩
    have hbyte : o.value < 256 := Nat.lt_succ_of_le o.le
    have hpiece : piece? o.digits = some o.value := by
      rw [piece?, if_pos o.length_le, decimal?, if_pos]
      · rfl
      · simpa using ⟨o.ne_nil, o.decimal⟩
    simp [byte?, hpiece, hbyte]

theorem Group.dot_not_mem (g : Group) : '.' ∉ g.digits := fun h =>
  absurd (g.hex '.' h) (by decide)

theorem Group.colon_not_mem (g : Group) : ':' ∉ g.digits := fun h =>
  absurd (g.hex ':' h) (by decide)

theorem Octet.dot_not_mem (o : Octet) : '.' ∉ o.digits := fun h =>
  absurd (o.decimal '.' h) (by decide)

theorem Octet.colon_not_mem (o : Octet) : ':' ∉ o.digits := fun h =>
  absurd (o.decimal ':' h) (by decide)

namespace Quad

/-- Quads are told from groups by their dots, which no group has. -/
theorem dot_mem (q : Quad) : '.' ∈ q.chars := by
  simp [chars, List.intercalate_cons_cons]

theorem colon_not_mem (q : Quad) : ':' ∉ q.chars := by
  simp [chars, List.intercalate_cons_cons, Octet.colon_not_mem]

/-- The pieces between the dots are the digits of the four bytes, since digits hold no dot. -/
theorem splitOn_chars (q : Quad) :
    q.chars.splitOn '.' = [q.a.digits, q.b.digits, q.c.digits, q.d.digits] :=
  List.splitOn_intercalate '.' (by simp [Octet.dot_not_mem]) (by simp)

theorem chars_injective {q r : Quad} (h : q.chars = r.chars) : q = r := by
  have hparts := congrArg (List.splitOn '.') h
  rw [splitOn_chars, splitOn_chars] at hparts
  simp only [List.cons.injEq, and_true] at hparts
  obtain ⟨ha, hb, hc, hd⟩ := hparts
  exact Quad.ext (Octet.ext ha) (Octet.ext hb) (Octet.ext hc) (Octet.ext hd)

end Quad

theorem appendHex_lt (n : Nat) (c : Char) : appendHex n c < (n + 1) * 16 := by
  rw [appendHex]
  cases hc : hexDigit? c with
  | none =>
    rw [Option.getD_none]
    omega
  | some d =>
    have hd := hexDigit?_lt hc
    rw [Option.getD_some]
    omega

/-- Each digit makes room for sixteen times as many numbers, so four of them stay below the 16 bits
of a group. -/
theorem foldl_appendHex_lt (cs : List Char) : ∀ n : Nat,
    cs.foldl appendHex n < (n + 1) * 16 ^ cs.length := by
  induction cs with
  | nil => simp
  | cons c cs ih =>
    intro n
    calc (c :: cs).foldl appendHex n
        < (appendHex n c + 1) * 16 ^ cs.length := ih _
      _ ≤ (n + 1) * 16 * 16 ^ cs.length := Nat.mul_le_mul_right _ (appendHex_lt n c)
      _ = (n + 1) * 16 ^ (c :: cs).length := by
        rw [List.length_cons, Nat.pow_succ, Nat.mul_comm (16 ^ cs.length), Nat.mul_assoc]

theorem Group.value_lt (g : Group) : g.value < 65536 :=
  calc g.value < (0 + 1) * 16 ^ g.digits.length := foldl_appendHex_lt g.digits 0
    _ ≤ (0 + 1) * 16 ^ 4 :=
      Nat.mul_le_mul_left _ (Nat.pow_le_pow_right (by decide) g.length_le)

/-- **A quad is read exactly where there is one**, and stands for the two groups that its four bytes
make. -/
theorem quadGroups?_eq_some_iff {cs : List Char} {gs : List Nat} :
    quadGroups? cs = some gs ↔ ∃ q : Quad, q.chars = cs ∧ q.values = gs := by
  constructor
  · intro h
    obtain ⟨bytes, hbytes, h⟩ := Option.bind_eq_some_iff.1 h
    obtain ⟨octets, hdigits, rfl⟩ := (mapM_eq_some_iff_exists fun _ _ => byte?_eq_some_iff).1 hbytes
    match octets, h with
    | [a, b, c, d], h =>
      cases h
      refine ⟨⟨a, b, c, d⟩, ?_, rfl⟩
      have hjoin : ['.'].intercalate (cs.splitOn '.') = cs := List.intercalate_splitOn '.'
      rw [← hjoin, ← hdigits]
      rfl
  · rintro ⟨q, rfl, rfl⟩
    have hbytes : (q.chars.splitOn '.').mapM byte? =
        some [q.a.value, q.b.value, q.c.value, q.d.value] := by
      rw [Quad.splitOn_chars]
      exact (mapM_eq_some_iff_exists fun _ _ => byte?_eq_some_iff).2
        ⟨[q.a, q.b, q.c, q.d], rfl, rfl⟩
    rw [quadGroups?, hbytes]
    rfl

/-! ## 3. Runs -/

namespace Run

variable {final : Bool}

/-- **Components can stand between colons**: none is empty and none holds a colon.  All that is
known of gaps and of splitting follows from this. -/
theorem separable (r : Run final) : Separable r.parts := by
  induction r with
  | empty => exact fun part h => absurd h List.not_mem_nil
  | quad q =>
    intro part h
    rw [List.mem_singleton.1 h]
    exact ⟨List.ne_nil_of_mem q.dot_mem, q.colon_not_mem⟩
  | group g rest ih => exact List.forall_mem_cons.2 ⟨⟨g.ne_nil, g.colon_not_mem⟩, ih⟩

/-- Components are told apart by their texts: a quad is none of the groups, and groups are their
digits. -/
theorem parts_injective {r s : Run final} (h : r.parts = s.parts) : r = s := by
  induction r with
  | empty =>
    cases s with
    | empty => rfl
    | quad _ | group _ _ => cases h
  | quad q =>
    cases s with
    | empty => cases h
    | quad q' => rw [Quad.chars_injective (List.cons.inj h).1]
    | group g rest => exact absurd ((List.cons.inj h).1 ▸ q.dot_mem) g.dot_not_mem
  | group g rest ih =>
    cases s with
    | empty => cases h
    | quad q => exact absurd ((List.cons.inj h).1 ▸ q.dot_mem) g.dot_not_mem
    | group g' rest' => rw [Group.ext (List.cons.inj h).1, ih (List.cons.inj h).2]

/-- **A text is one run at most**, as it splits at its colons into the texts of the components. -/
theorem chars_injective {r s : Run final} (h : r.chars = s.chars) : r = s :=
  parts_injective (r.separable.join_injective s.separable h)

/-- Every component stands for groups of 16 bits, so that no group reaches into its neighbour. -/
theorem lt_of_mem_values {r : Run final} {n : Nat} (h : n ∈ r.values) : n < 65536 := by
  induction r with
  | empty => cases h
  | quad q =>
    have hle : q.a.value ≤ 255 ∧ q.b.value ≤ 255 ∧ q.c.value ≤ 255 ∧ q.d.value ≤ 255 :=
      ⟨q.a.le, q.b.le, q.c.le, q.d.le⟩
    simp only [values, Quad.values, List.mem_cons, List.not_mem_nil, or_false] at h
    rcases h with rfl | rfl
    · omega
    · omega
  | group g rest ih =>
    rcases List.mem_cons.1 h with rfl | h
    · exact g.value_lt
    · exact ih h

end Run

/-- **Components are read exactly where there are some.**  The induction is on the parts; only the
last one may be a quad, and only in the final run. -/
theorem partsGroups?_eq_some_iff {final : Bool} {parts : List (List Char)} : ∀ {gs : List Nat},
    partsGroups? final parts = some gs ↔ ∃ r : Run final, r.parts = parts ∧ r.values = gs := by
  induction parts with
  | nil =>
    intro gs
    constructor
    · intro h
      cases h
      exact ⟨.empty, rfl, rfl⟩
    · rintro ⟨r, hparts, rfl⟩
      cases r with
      | empty => rfl
      | quad _ | group _ _ => cases hparts
  | cons part parts ih =>
    intro gs
    constructor
    · intro h
      obtain ⟨more, hmore, h⟩ := Option.bind_eq_some_iff.1 h
      obtain ⟨rest, hrest, h⟩ := Option.bind_eq_some_iff.1 h
      cases h
      rw [partGroups?] at hmore
      split at hmore
      · next hquad =>
        simp only [Bool.and_eq_true, List.isEmpty_iff] at hquad
        obtain ⟨⟨rfl, rfl⟩, -⟩ := hquad
        obtain ⟨q, rfl, rfl⟩ := quadGroups?_eq_some_iff.1 hmore
        cases hrest
        exact ⟨.quad q, rfl, (List.append_nil _).symm⟩
      · obtain ⟨n, hn, rfl⟩ := Option.map_eq_some_iff.1 hmore
        obtain ⟨g, rfl, rfl⟩ := group?_eq_some_iff.1 hn
        obtain ⟨r, rfl, rfl⟩ := ih.1 hrest
        exact ⟨.group g r, rfl, rfl⟩
    · rintro ⟨r, hparts, rfl⟩
      cases r with
      | empty => cases hparts
      | quad q =>
        cases hparts
        have hquad := quadGroups?_eq_some_iff.2 ⟨q, rfl, rfl⟩
        simp [partsGroups?, partGroups?, q.dot_mem, hquad, Run.values]
      | group g rest =>
        cases hparts
        have hgroup := group?_eq_some_iff.2 ⟨g, rfl, rfl⟩
        have hrest := ih.2 ⟨rest, rfl, rfl⟩
        simp [partsGroups?, partGroups?, g.dot_not_mem, hgroup, hrest, Run.values]

/-- **A run is read exactly where there is one.**  The empty text is the empty run, which stands at
the end of a text beside `::`. -/
theorem run?_eq_some_iff {final : Bool} {cs : List Char} {gs : List Nat} :
    run? final cs = some gs ↔ ∃ r : Run final, r.chars = cs ∧ r.values = gs := by
  constructor
  · intro h
    rw [run?] at h
    split at h
    · next hnil =>
      cases h
      exact ⟨.empty, (List.isEmpty_iff.1 hnil).symm, rfl⟩
    · obtain ⟨r, hparts, hvalues⟩ := partsGroups?_eq_some_iff.1 h
      refine ⟨r, ?_, hvalues⟩
      rw [Run.chars, hparts]
      exact List.intercalate_splitOn ':'
  · rintro ⟨r, rfl, rfl⟩
    rw [Run.chars, r.separable.run?_join]
    exact partsGroups?_eq_some_iff.2 ⟨r, rfl, rfl⟩

/-! ## 4. Whole texts -/

namespace Shape

/-- There is no gap in a run, so a text of eight groups is not taken for a shortened one. -/
theorem splitGap_whole {run : Run true} (eight : run.values.length = 8) :
    splitGap (whole run eight).chars = none :=
  run.separable.splitGap_uncut

/-- The first `::` is the one between head and tail, since none can stand within the head. -/
theorem splitGap_gapped {head : Run false} {tail : Run true}
    (seven : head.values.length + tail.values.length ≤ 7) :
    splitGap (gapped head tail seven).chars = some (head.chars, tail.chars) := by
  have hcut := head.separable.splitGap_cut tail.chars
  simpa [chars, Run.chars] using hcut

/-- **A text has one shape at most.**  The search for the gap tells the two kinds apart, and within
a kind the runs are told by their texts. -/
theorem chars_injective {s t : Shape} (h : s.chars = t.chars) : s = t := by
  have hgap := congrArg splitGap h
  cases s with
  | whole run eight =>
    cases t with
    | whole run' eight' =>
      obtain rfl := Run.chars_injective h
      rfl
    | gapped head tail seven =>
      rw [splitGap_whole, splitGap_gapped] at hgap
      cases hgap
  | gapped head tail seven =>
    cases t with
    | whole run eight =>
      rw [splitGap_whole, splitGap_gapped] at hgap
      cases hgap
    | gapped head' tail' seven' =>
      rw [splitGap_gapped, splitGap_gapped, Option.some.injEq, Prod.mk.injEq] at hgap
      obtain rfl := Run.chars_injective hgap.1
      obtain rfl := Run.chars_injective hgap.2
      rfl

/-- What a shape stands for is eight groups, counted in the type or filled up with zeros. -/
theorem length_values (s : Shape) : s.values.length = 8 := by
  cases s with
  | whole run eight => exact eight
  | gapped head tail seven =>
    simp only [values, List.length_append, List.length_replicate]
    omega

theorem lt_of_mem_values {s : Shape} {n : Nat} (h : n ∈ s.values) : n < 65536 := by
  cases s with
  | whole run eight => exact Run.lt_of_mem_values h
  | gapped head tail seven =>
    simp only [values, List.mem_append, List.mem_replicate] at h
    rcases h with (h | ⟨-, rfl⟩) | h
    · exact Run.lt_of_mem_values h
    · decide
    · exact Run.lt_of_mem_values h

end Shape

/-- **Groups are read exactly where a text has a shape.**  The bounds on the lengths of runs, which
the reader tests, are fields of the shape. -/
theorem ipv6Groups?_eq_some_iff {cs : List Char} {gs : List Nat} :
    ipv6Groups? cs = some gs ↔ ∃ s : Shape, s.chars = cs ∧ s.values = gs := by
  constructor
  · intro h
    rw [ipv6Groups?] at h
    split at h
    · obtain ⟨parsed, hrun, h⟩ := Option.bind_eq_some_iff.1 h
      split at h
      · next eight =>
        cases h
        obtain ⟨r, rfl, rfl⟩ := run?_eq_some_iff.1 hrun
        exact ⟨.whole r eight, rfl, rfl⟩
      · cases h
    · next front back hgap =>
      obtain ⟨fs, hfs, h⟩ := Option.bind_eq_some_iff.1 h
      obtain ⟨bs, hbs, h⟩ := Option.bind_eq_some_iff.1 h
      split at h
      · next seven =>
        cases h
        obtain ⟨head, rfl, rfl⟩ := run?_eq_some_iff.1 hfs
        obtain ⟨tail, rfl, rfl⟩ := run?_eq_some_iff.1 hbs
        refine ⟨.gapped head tail seven, ?_, rfl⟩
        rw [eq_append_of_splitGap hgap]
        simp [Shape.chars]
      · cases h
  · rintro ⟨s, rfl, rfl⟩
    cases s with
    | whole run eight =>
      have hrun := run?_eq_some_iff.2 ⟨run, rfl, rfl⟩
      rw [ipv6Groups?, Shape.splitGap_whole]
      simp only [Shape.chars, hrun, Option.bind_some, if_pos eight, Shape.values]
    | gapped head tail seven =>
      have hhead := run?_eq_some_iff.2 ⟨head, rfl, rfl⟩
      have htail := run?_eq_some_iff.2 ⟨tail, rfl, rfl⟩
      rw [ipv6Groups?, Shape.splitGap_gapped]
      simp only [gapped?, hhead, htail, Option.bind_eq_bind, Option.bind_some, if_pos seven,
        Option.pure_def, Shape.values]

/-! ## 5. The address -/

/-- Groups are taken apart into the bytes of their number, high byte first, if each of them has 16
bits. -/
theorem bytesOf_ofGroups (gs : List Nat) (h : ∀ g ∈ gs, g < 65536) :
    bytesOf (2 * gs.length) (ofGroups gs) = gs.flatMap groupBytes := by
  induction gs using List.reverseRecOn with
  | nil => rfl
  | append_singleton gs g ih =>
    have hg : g < 65536 := h g (by simp)
    have hnumber : ofGroups (gs ++ [g]) = ofGroups gs * 65536 + g := by simp [ofGroups]
    have hplaces : 2 * (gs ++ [g]).length = 2 * gs.length + 1 + 1 := by simp [Nat.mul_add]
    have hfirst : (ofGroups gs * 65536 + g) / 256 % 256 = g / 256 := by omega
    have hsecond : (ofGroups gs * 65536 + g) % 256 = g % 256 := by omega
    have hfront : (ofGroups gs * 65536 + g) / 256 / 256 = ofGroups gs := by omega
    rw [hnumber, hplaces, bytesOf_succ, bytesOf_succ, hfirst, hsecond, hfront,
      ih fun x hx => h x (List.mem_append_left _ hx), List.flatMap_append, List.append_assoc]
    rfl

/-- **An address is read where the text has a shape, and its bytes are those of the shape.**  So two
texts are read as one address exactly if their shapes have the same bytes. -/
theorem ipv6?_eq_some_iff {cs : List Char} {b : BitVec 128} :
    ipv6? cs = some b ↔ ∃ s : Shape, s.chars = cs ∧ s.bytes = (Address.v6 b).bytes := by
  have hbytes : ∀ s : Shape, bytesOf 16 (ofGroups s.values) = s.bytes := by
    intro s
    have hapart := bytesOf_ofGroups s.values fun _ => Shape.lt_of_mem_values
    rwa [s.length_values] at hapart
  have hfits : ∀ s : Shape, ofGroups s.values % 2 ^ 128 = ofGroups s.values := by
    intro s
    have hmod := ofBytes_bytesOf 16 (ofGroups s.values)
    rw [hbytes, Shape.bytes, ofBytes_flatMap] at hmod
    exact hmod.symm
  rw [ipv6?_eq, Option.map_eq_some_iff]
  constructor
  · rintro ⟨gs, hgs, rfl⟩
    obtain ⟨s, rfl, rfl⟩ := ipv6Groups?_eq_some_iff.1 hgs
    exact ⟨s, rfl, by rw [Address.bytes, BitVec.toNat_ofNat, hfits, hbytes]⟩
  · rintro ⟨s, rfl, hs⟩
    refine ⟨s.values, ipv6Groups?_eq_some_iff.2 ⟨s, rfl, rfl⟩, ?_⟩
    have hnumber : ofGroups s.values = b.toNat := by
      rw [← ofBytes_flatMap, ← Shape.bytes, hs, Address.bytes, ofBytes_bytesOf]
      exact Nat.mod_eq_of_lt b.isLt
    rw [hnumber, BitVec.ofNat_toNat, BitVec.setWidth_eq]

/-! ## 6. The reader of bytes -/

/-- **IPv6 text is read by its grammar.**  Bytes are the outcome exactly where the text has a shape,
and are those of the shape; a text has one shape at most; all other text is rejected; and no text
stops the reader, so every slice fits where it is copied.  An address is what a shape of its bytes
reads as. -/
theorem ipv6Bytes_reads_shapes (cs : List Char) :
    (∀ bytes, (ipv6Bytes cs).run = .ok (some bytes) ↔
      ∃ s : Shape, s.chars = cs ∧ s.bytes = bytes) ∧
    (∀ s t : Shape, s.chars = cs → t.chars = cs → s = t) ∧
    ((¬ ∃ s : Shape, s.chars = cs) → (ipv6Bytes cs).run = .ok none) ∧
    (∀ fault, (ipv6Bytes cs).run ≠ .error fault) ∧
    (∀ b : BitVec 128, ipv6? cs = some b ↔
      ∃ s : Shape, s.chars = cs ∧ s.bytes = (Address.v6 b).bytes) := by
  have hrun : (ipv6Bytes cs).run = .ok ((ipv6Groups? cs).map fun gs => gs.flatMap groupBytes) := by
    rw [ipv6Bytes_eq, run_liftOption]
  refine ⟨?_, ?_, ?_, ?_, fun _ => ipv6?_eq_some_iff⟩
  · intro bytes
    rw [hrun, Except.ok.injEq, Option.map_eq_some_iff]
    constructor
    · rintro ⟨gs, hgs, rfl⟩
      obtain ⟨s, rfl, rfl⟩ := ipv6Groups?_eq_some_iff.1 hgs
      exact ⟨s, rfl, rfl⟩
    · rintro ⟨s, rfl, rfl⟩
      exact ⟨s.values, ipv6Groups?_eq_some_iff.2 ⟨s, rfl, rfl⟩, rfl⟩
  · rintro s t rfl ht
    exact Shape.chars_injective ht.symm
  · intro hnone
    rw [hrun]
    cases hgs : ipv6Groups? cs with
    | none => rfl
    | some gs =>
      obtain ⟨s, hs, -⟩ := ipv6Groups?_eq_some_iff.1 hgs
      exact absurd ⟨s, hs⟩ hnone
  · intro fault h
    rw [hrun] at h
    cases h

/-- `1::fF:10.0.0.1` has its one shape, which is that of the address with these bytes, and `1:::`
has none. -/
theorem ipv6Bytes_reads_shapes_quad :
    (∃ s : Shape, s.chars = "1::fF:10.0.0.1".toList ∧
      s.bytes = [0, 1, 0, 0, 0, 0, 0, 0, 0, 0, 0, 255, 10, 0, 0, 1]) ∧
    (∃ s : Shape, s.chars = "1::fF:10.0.0.1".toList ∧
      s.bytes = (Address.v6 0x0001000000000000000000FF0A000001).bytes) ∧
    (∀ s t : Shape, s.chars = "1::fF:10.0.0.1".toList → t.chars = "1::fF:10.0.0.1".toList → s = t) ∧
    (¬ ∃ s : Shape, s.chars = "1:::".toList) ∧ (ipv6Bytes "1:::".toList).run = .ok none := by
  have hrejected : ¬ ∃ s : Shape, s.chars = "1:::".toList := by
    rintro ⟨s, hs⟩
    have haccepted := ((ipv6Bytes_reads_shapes "1:::".toList).1 s.bytes).2 ⟨s, hs, rfl⟩
    have hnone : (ipv6Bytes "1:::".toList).run = .ok none := rfl
    rw [hnone] at haccepted
    cases haccepted
  exact ⟨((ipv6Bytes_reads_shapes _).1 _).1 rfl,
    ((ipv6Bytes_reads_shapes _).2.2.2.2 _).1 rfl, (ipv6Bytes_reads_shapes _).2.1, hrejected,
    (ipv6Bytes_reads_shapes _).2.2.1 hrejected⟩

end Turnstile.Ipv6
