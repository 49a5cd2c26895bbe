/-
# IPv6 by groups

The reader of IPv6 text cuts it at byte offsets, stores pieces and groups place by place and copies
slices that must fit.  This module says what it computes without any of that: `ipv6Groups?` is a
function from the text to its eight groups, and

* `ipv6Bytes_eq`: reading gives the bytes of these groups, or rejects the text where there are none.
  **No bound is ever left**, since an answer of that kind is not a fault;
* `ipv6?_eq`: the address is the number that the groups stand for.

Each function of the reader has its own equation here, with the side condition that its caller
grants: four places for a quad, at most eight groups collected so far, room behind the `i`-th byte.

The reader looks for a second `::` behind the first one.  There is no need to: a text that reads as
a run has none (`splitGap_of_run?`), since no part of a run is empty (`Separable`).
-/
import Turnstile.Address.Reader
import Turnstile.Proofs.Text.Split

namespace Turnstile

/-! ## 1. Soft answers -/

@[simp] theorem liftOption_some {α : Type} (a : α) : (liftOption (some a) : Reading α) = pure a :=
  rfl

@[simp] theorem liftOption_none {α : Type} : (liftOption none : Reading α) = failure :=
  rfl

@[simp] theorem failure_bind {α β : Type} (f : α → Reading β) :
    ((failure : Reading α) >>= f) = failure :=
  rfl

/-- A soft answer is no fault, whether it is there or not.  With it each equation below says that no
bound is left. -/
theorem run_liftOption {α : Type} (o : Option α) : (liftOption o : Reading α).run = .ok o := by
  cases o with
  | none => rfl
  | some a => rfl

/-- **Parts are read one by one**: if each of them is read exactly where there is something with its
text, then all are read exactly where there are things with their texts. -/
theorem mapM_eq_some_iff_exists {α β γ : Type} {read : α → Option β} {text : γ → α} {value : γ → β}
    (hread : ∀ a b, read a = some b ↔ ∃ c, text c = a ∧ value c = b) {parts : List α} :
    ∀ {values : List β}, parts.mapM read = some values ↔
      ∃ things : List γ, things.map text = parts ∧ things.map value = values := by
  induction parts with
  | nil =>
    intro values
    simp only [List.mapM_nil, Option.pure_def, Option.some.injEq, List.map_eq_nil_iff,
      exists_eq_left, List.map_nil]
  | cons part parts ih =>
    intro values
    rw [List.mapM_cons]
    constructor
    · intro h
      obtain ⟨b, hb, h⟩ := Option.bind_eq_some_iff.1 h
      obtain ⟨bs, hbs, h⟩ := Option.bind_eq_some_iff.1 h
      cases h
      obtain ⟨c, rfl, rfl⟩ := (hread _ _).1 hb
      obtain ⟨cs, rfl, rfl⟩ := ih.1 hbs
      exact ⟨c :: cs, rfl, rfl⟩
    · rintro ⟨things, htext, rfl⟩
      obtain ⟨c, cs, rfl, rfl, hcs⟩ := List.map_eq_cons_iff.1 htext
      have hb := (hread _ _).2 ⟨c, rfl, rfl⟩
      have hbs := ih.2 ⟨cs, hcs, rfl⟩
      simp [hb, hbs]

namespace Slice

variable {α : Type}

theorem set_eq {xs : List α} {i : Nat} (h : i < xs.length) (x : α) :
    set xs i x = pure (xs.set i x) :=
  if_pos h

/-- A slice that is as long as what fills it is replaced, and what stands around it stays.  Any
other length would be a fault. -/
theorem fill_eq {xs ys : List α} {start finish : Nat} (hle : finish ≤ xs.length)
    (hys : start + ys.length = finish) :
    fill xs start finish ys = pure (xs.take start ++ ys ++ xs.drop finish) := by
  rw [fill, if_pos ⟨by omega, hle⟩, if_pos (by omega)]

theorem minus_eq {m n : Nat} (h : n ≤ m) : minus m n = pure (m - n) :=
  if_pos h

/-- The bytes of a text. -/
def size : List Char → Nat
  | [] => 0
  | c :: cs => c.utf8Size + size cs

theorem size_append (front back : List Char) : size (front ++ back) = size front + size back := by
  induction front with
  | nil => simp [size]
  | cons c front ih => rw [List.cons_append, size, size, ih, Nat.add_assoc]

/-- **A text is cut between its characters** at the size of what stands in front.  Offsets count
bytes, so this is what keeps a cut from falling into a character. -/
theorem cut_size (front back : List Char) :
    cut (size front) (front ++ back) = pure (front, back) := by
  induction front with
  | nil =>
    cases back with
    | nil => rfl
    | cons c cs => rfl
  | cons c front ih =>
    have hpos := c.utf8Size_pos
    have hsize : size (c :: front) = c.utf8Size + size front := rfl
    obtain ⟨n, hn⟩ : ∃ n, size (c :: front) = n + 1 := ⟨size (c :: front) - 1, by omega⟩
    have hrest : n + 1 - c.utf8Size = size front := by omega
    rw [hn, List.cons_append, cut, if_pos (by omega), hrest, ih]
    rfl

end Slice

end Turnstile

namespace Turnstile.Address

open Turnstile.Text

/-! ## 2. The groups of a text -/

/-- A piece that fits one byte. -/
def byte? (cs : List Char) : Option Nat :=
  (piece? cs).bind fun b => if b < 256 then some b else none

/-- A dotted quad in place of the last two groups. -/
def quadGroups? (cs : List Char) : Option (List Nat) := do
  match ← (cs.splitOn '.').mapM byte? with
  | [a, b, c, d] => some [a * 256 + b, c * 256 + d]
  | _ => none

/-- The groups that one part of a run stands for. -/
def partGroups? (final last : Bool) (part : List Char) : Option (List Nat) :=
  if last && final && part.contains '.' then quadGroups? part else (group? part).map ([·])

/-- The groups that the parts of a run stand for. -/
def partsGroups? (final : Bool) : List (List Char) → Option (List Nat)
  | [] => some []
  | part :: parts => do
    return (← partGroups? final parts.isEmpty part) ++ (← partsGroups? final parts)

/-- The groups of a run; the empty text is the empty run. -/
def run? (final : Bool) (cs : List Char) : Option (List Nat) :=
  if cs.isEmpty then some [] else partsGroups? final (cs.splitOn ':')

/-- What stands before and after the first `::`. -/
def splitGap : List Char → Option (List Char × List Char)
  | ':' :: ':' :: rest => some ([], rest)
  | c :: rest => (splitGap rest).map fun (front, back) => (c :: front, back)
  | [] => none

/-- The groups of an address with a gap, which stands for at least one group of zeros. -/
def gapped? (front back : List Char) : Option (List Nat) := do
  let fs ← run? false front
  let bs ← run? true back
  if fs.length + bs.length ≤ 7 then
    return fs ++ List.replicate (8 - fs.length - bs.length) 0 ++ bs
  else none

/-- The eight groups that an IPv6 text stands for. -/
def ipv6Groups? (cs : List Char) : Option (List Nat) :=
  match splitGap cs with
  | none => (run? true cs).bind fun gs => if gs.length = 8 then some gs else none
  | some (front, back) => gapped? front back

/-- The two bytes of a group. -/
def groupBytes (g : Nat) : List Nat :=
  [g / 256, g % 256]

/-- The number that groups stand for. -/
def ofGroups (gs : List Nat) : Nat :=
  gs.foldl (fun n g => n * 65536 + g) 0

/-! ## 3. Quads -/

/-- **Pieces are stored one behind the other**, and fill the quad if they are as many as it lacks.
A fifth piece is rejected before it would be stored. -/
theorem storePieces_eq (parts : List (List Char)) : ∀ (quad : List Nat) (count : Nat),
    quad.length = 4 → count ≤ 4 →
    storePieces quad count parts = liftOption ((parts.mapM byte?).bind fun bytes =>
      if count + bytes.length = 4 then some (quad.take count ++ bytes) else none) := by
  induction parts with
  | nil =>
    intro quad count hquad hcount
    by_cases hfull : count = 4
    · simp [storePieces, hfull, ← hquad]
    · simp [storePieces, hfull]
  | cons part parts ih =>
    intro quad count hquad hcount
    rw [storePieces, List.mapM_cons]
    by_cases hfull : count = 4
    · rw [if_pos hfull]
      cases byte? part with
      | none => rfl
      | some b =>
        cases parts.mapM byte? with
        | none => rfl
        | some bytes => simp [hfull]
    · rw [if_neg hfull, byte?]
      cases piece? part with
      | none => rfl
      | some b =>
        by_cases hb : b < 256
        · have hset : Slice.set quad count b = pure (quad.set count b) :=
            Slice.set_eq (by omega) b
          have htake : (quad.set count b).take (count + 1) = quad.take count ++ [b] := by
            rw [List.take_add_one, List.take_set_of_le (Nat.le_refl count)]
            simp [show count < quad.length by omega]
          have ih := ih (quad.set count b) (count + 1) (by simpa) (by omega)
          rw [htake] at ih
          simp [hb, hset, ih, Option.bind_assoc, Nat.add_right_comm, Nat.add_assoc]
        · simp [hb]

/-- **A quad is read without leaving its four places**, and comes to two groups if its four pieces
are bytes. -/
theorem readQuad_eq (cs : List Char) : readQuad cs = liftOption (quadGroups? cs) := by
  rw [readQuad, quadGroups?, storePieces_eq _ _ _ (by simp) (by decide)]
  cases (cs.splitOn '.').mapM byte? with
  | none => rfl
  | some bytes =>
    match bytes with
    | [a, b, c, d] => rfl
    | [] | [_] | [_, _] | [_, _, _] => rfl
    | _ :: _ :: _ :: _ :: _ :: rest => simp [Nat.add_assoc]

/-! ## 4. Runs -/

theorem readPart_eq (final last : Bool) (part : List Char) :
    readPart final last part = liftOption (partGroups? final last part) := by
  rw [readPart, partGroups?]
  split
  · exact readQuad_eq part
  · rfl

/-- **Groups are collected in order**, and no part is looked at behind a ninth one: the answer is
the same as if all had been read first and counted then. -/
theorem collect_eq (final : Bool) (parts : List (List Char)) : ∀ groups : List Nat,
    groups.length ≤ 8 →
    collect final groups parts = liftOption ((partsGroups? final parts).bind fun more =>
      if (groups ++ more).length ≤ 8 then some (groups ++ more) else none) := by
  induction parts with
  | nil =>
    intro groups hgroups
    simp [collect, partsGroups?, hgroups]
  | cons part parts ih =>
    intro groups hgroups
    rw [collect, readPart_eq, partsGroups?]
    cases partGroups? final parts.isEmpty part with
    | none => rfl
    | some more =>
      by_cases hmore : 8 < (groups ++ more).length
      · have hnever : ∀ rest : List Nat, ¬ (groups ++ (more ++ rest)).length ≤ 8 := by
          intro rest
          rw [← List.append_assoc, List.length_append]
          omega
        cases partsGroups? final parts with
        | none => simp only [liftOption_some, pure_bind, if_pos hmore, Option.bind_eq_bind,
            Option.bind_some, Option.bind_none, liftOption_none]
        | some rest => simp only [liftOption_some, pure_bind, if_pos hmore, Option.bind_eq_bind,
            Option.bind_some, Option.pure_def, if_neg (hnever rest), liftOption_none]
      · have ih := ih (groups ++ more) (by omega)
        simp only [liftOption_some, pure_bind, if_neg hmore, ih, Option.bind_eq_bind,
          Option.bind_some, Option.pure_def, Option.bind_assoc, List.append_assoc]

/-- A run is read in full if it is of eight groups at most.  The empty text is the empty run, as it
stands on either side of a gap. -/
theorem readRun_eq (final : Bool) (cs : List Char) :
    readRun final cs = liftOption ((run? final cs).bind fun gs =>
      if gs.length ≤ 8 then some gs else none) := by
  rw [readRun, run?]
  split
  · rfl
  · exact collect_eq final _ _ (by simp)

/-! ## 5. The gap -/

/-- A gap stands where it was found, so the two sides and the gap make up the text again. -/
theorem eq_append_of_splitGap {cs front back : List Char} (h : splitGap cs = some (front, back)) :
    cs = front ++ ':' :: ':' :: back := by
  induction cs using splitGap.induct generalizing front with
  | case1 rest =>
    rw [splitGap] at h
    cases h
    rfl
  | case2 c rest hgap ih =>
    rw [splitGap] at h
    · obtain ⟨⟨front', back'⟩, hrest, heq⟩ := Option.map_eq_some_iff.1 h
      cases heq
      rw [ih hrest, List.cons_append]
    · exact hgap
  | case3 => cases h

/-- **The first `::` is found at the size of what stands in front of it.**  The reader searches by
bytes and the grammar by characters; they find the same place. -/
theorem find?_gap (cs : List Char) :
    Slice.find? "::".toList cs = (splitGap cs).map fun (front, _) => Slice.size front := by
  induction cs using splitGap.induct with
  | case1 rest => rfl
  | case2 c rest hgap ih =>
    have hprefix : "::".toList.isPrefixOf (c :: rest) = false := by
      rw [Bool.eq_false_iff]
      intro h
      obtain ⟨back, hback⟩ := List.isPrefixOf_iff_prefix.1 h
      obtain ⟨rfl, rfl⟩ := List.cons.inj hback
      exact hgap back rfl rfl
    rw [splitGap, Slice.find?, hprefix, ih]
    · simp [Slice.size, Function.comp_def]
    · exact hgap
  | case3 => rfl

/-- Characters before the first colon belong to the front of a gap, since none of them can be a part
of it. -/
theorem splitGap_append {ds : List Char} (h : ':' ∉ ds) (cs : List Char) :
    splitGap (ds ++ cs) = (splitGap cs).map fun (front, back) => (ds ++ front, back) := by
  induction ds with
  | nil => simp
  | cons d ds ih =>
    simp only [List.mem_cons, not_or] at h
    have hd : ∀ rest, splitGap (d :: rest) =
        (splitGap rest).map fun (front, back) => (d :: front, back) := by
      intro rest
      rw [splitGap]
      rintro tail hdc -
      exact h.1 hdc.symm
    rw [List.cons_append, hd, ih h.2, Option.map_map]
    rfl

/-- A single colon is no gap.  It is passed over as a sign between two groups, and the search goes
on behind it. -/
theorem splitGap_colon {c : Char} (h : c ≠ ':') (cs : List Char) :
    splitGap (':' :: c :: cs) =
      (splitGap (c :: cs)).map fun (front, back) => (':' :: front, back) := by
  rw [splitGap]
  rintro tail - hc
  exact h (List.cons.inj hc).1

/-- Texts that can stand between colons without making a gap. -/
def Separable (parts : List (List Char)) : Prop :=
  ∀ part ∈ parts, part ≠ [] ∧ ':' ∉ part

namespace Separable

variable {parts : List (List Char)}

/-- Joined parts do not begin with a colon, as the first part is not empty and holds none. -/
theorem join_eq_cons {part : List Char} (h : Separable (part :: parts)) :
    ∃ c cs, c ≠ ':' ∧ [':'].intercalate (part :: parts) = c :: cs := by
  obtain ⟨hne, hcolon⟩ := h part List.mem_cons_self
  obtain ⟨c, cs, rfl⟩ := List.exists_cons_of_ne_nil hne
  have hc : c ≠ ':' := by
    rintro rfl
    exact hcolon List.mem_cons_self
  cases parts with
  | nil => exact ⟨c, cs, hc, List.intercalate_singleton⟩
  | cons next parts => exact ⟨c, _, hc, List.intercalate_cons_cons⟩

/-- Joined parts are told apart again by their colons, since no part holds one. -/
theorem splitOn_join (h : Separable parts) (hne : parts ≠ []) :
    ([':'].intercalate parts).splitOn ':' = parts :=
  List.splitOn_intercalate ':' (fun part hpart => (h part hpart).2) hne

/-- A joined text comes from one list of parts, which is what makes the shape of an address text
unique. -/
theorem join_injective {others : List (List Char)} (h : Separable parts)
    (hothers : Separable others) (heq : [':'].intercalate parts = [':'].intercalate others) :
    parts = others := by
  cases parts with
  | nil =>
    cases others with
    | nil => rfl
    | cons part others =>
      obtain ⟨c, cs, -, hjoin⟩ := hothers.join_eq_cons
      rw [hjoin] at heq
      cases heq
  | cons part parts =>
    cases others with
    | nil =>
      obtain ⟨c, cs, -, hjoin⟩ := h.join_eq_cons
      rw [hjoin] at heq
      cases heq
    | cons other others =>
      rw [← h.splitOn_join (by simp), heq, hothers.splitOn_join (by simp)]

/-- A joined text is read by its parts, which are those that the reader finds between the colons. -/
theorem run?_join (h : Separable parts) (final : Bool) :
    run? final ([':'].intercalate parts) = partsGroups? final parts := by
  cases parts with
  | nil => rfl
  | cons part parts =>
    obtain ⟨c, cs, -, hjoin⟩ := h.join_eq_cons
    rw [run?, h.splitOn_join (by simp), hjoin]
    rfl

/-- **Joined parts are searched to their end**, and the gap is looked for behind them: no two colons
in a row stand between parts that are not empty. -/
theorem splitGap_join (h : Separable parts) (hne : parts ≠ []) (cs : List Char) :
    splitGap ([':'].intercalate parts ++ cs) =
      (splitGap cs).map fun (front, back) => ([':'].intercalate parts ++ front, back) := by
  induction parts with
  | nil => exact absurd rfl hne
  | cons part parts ih =>
    have hpart := (h part List.mem_cons_self).2
    have hparts : Separable parts := fun p hp => h p (List.mem_cons_of_mem part hp)
    cases parts with
    | nil => rw [List.intercalate_singleton, splitGap_append hpart]
    | cons next parts =>
      obtain ⟨c, rest, hc, hjoin⟩ := hparts.join_eq_cons
      have hcolon : splitGap (':' :: ([':'].intercalate (next :: parts) ++ cs)) =
          (splitGap ([':'].intercalate (next :: parts) ++ cs)).map
            fun (front, back) => (':' :: front, back) := by
        rw [hjoin]
        exact splitGap_colon hc _
      rw [List.intercalate_cons_cons, List.append_assoc, List.append_assoc, splitGap_append hpart,
        List.singleton_append, hcolon, ih hparts (by simp), Option.map_map, Option.map_map]
      congr 1
      funext ⟨front, back⟩
      simp

/-- Behind joined parts a gap is found where it stands, and not one character earlier. -/
theorem splitGap_cut (h : Separable parts) (back : List Char) :
    splitGap ([':'].intercalate parts ++ ':' :: ':' :: back) =
      some ([':'].intercalate parts, back) := by
  cases parts with
  | nil => rfl
  | cons part parts =>
    rw [splitGap_join h (by simp), splitGap]
    simp

/-- Without a gap behind them, joined parts have none, so that a whole address is not taken for a
shortened one. -/
theorem splitGap_uncut (h : Separable parts) : splitGap ([':'].intercalate parts) = none := by
  cases parts with
  | nil => rfl
  | cons part parts =>
    have hjoin := splitGap_join h (by simp) []
    rw [List.append_nil] at hjoin
    rw [hjoin]
    rfl

end Separable

/-- No part of a run is empty, since the empty text is neither a group nor a quad.  So two colons in
a row are no part of a run. -/
theorem ne_nil_of_partsGroups? {final : Bool} : ∀ {parts : List (List Char)} {gs : List Nat},
    partsGroups? final parts = some gs → ∀ part ∈ parts, part ≠ []
  | [], _, _ => by simp
  | part :: parts, gs, h => by
    have hnone : partGroups? final parts.isEmpty [] = none := by
      simp [partGroups?, group?, hex?]
    obtain ⟨more, hmore, hrest⟩ := Option.bind_eq_some_iff.1 h
    obtain ⟨rest, hrest, -⟩ := Option.bind_eq_some_iff.1 hrest
    have hpart : part ≠ [] := by
      rintro rfl
      rw [hnone] at hmore
      cases hmore
    exact List.forall_mem_cons.2 ⟨hpart, ne_nil_of_partsGroups? hrest⟩

/-- **There is no gap within a run.**  The reader looks for a second gap behind the first one and
rejects the text if there is one; the run behind the first gap could not have been read either. -/
theorem splitGap_of_run? {final : Bool} {cs : List Char} {gs : List Nat}
    (h : run? final cs = some gs) : splitGap cs = none := by
  rw [run?] at h
  split at h
  · next hnil => rw [List.isEmpty_iff.1 hnil, splitGap]
  · have hsep : Separable (cs.splitOn ':') := fun part hpart =>
      ⟨ne_nil_of_partsGroups? h part hpart, not_mem_of_mem_splitOn hpart⟩
    have hjoin : [':'].intercalate (cs.splitOn ':') = cs := List.intercalate_splitOn ':'
    have huncut := hsep.splitGap_uncut
    rwa [hjoin] at huncut

/-! ## 6. Eight groups in sixteen bytes -/

/-- **Eight groups fill their array**, and fewer are rejected, since there is no gap that could
stand for the others. -/
theorem readWhole_eq (cs : List Char) :
    readWhole cs = liftOption ((run? true cs).bind fun gs =>
      if gs.length = 8 then some gs else none) := by
  rw [readWhole, readRun_eq]
  cases run? true cs with
  | none => rfl
  | some gs =>
    by_cases hfull : gs.length = 8
    · have hfill : Slice.fill (List.replicate 8 0) 0 8 gs = pure ([] ++ gs ++ []) :=
        Slice.fill_eq (by simp) (by omega)
      simp only [Option.bind_some, if_pos (Nat.le_of_eq hfull), liftOption_some, pure_bind,
        if_pos hfull, hfill]
      simp
    · by_cases hle : gs.length ≤ 8
      · simp [hle, hfull]
      · simp [hle, show gs.length ≠ 8 from hfull]

/-- The groups in front of a gap fit into the array, and leave zeros behind them. -/
theorem fill_front {fs : List Nat} (h : fs.length ≤ 8) :
    Slice.fill (List.replicate 8 0) 0 fs.length fs =
      pure (fs ++ List.replicate (8 - fs.length) 0) := by
  rw [Slice.fill_eq (by rwa [List.length_replicate]) (by omega), List.drop_replicate,
    List.take_zero, List.nil_append]

/-- Those behind a gap fit as well, and what is left of the zeros stands between the two sides. -/
theorem fill_back {fs bs : List Nat} (h : fs.length + bs.length ≤ 8) :
    Slice.fill (fs ++ List.replicate (8 - fs.length) 0) (8 - bs.length) 8 bs =
      pure (fs ++ List.replicate (8 - fs.length - bs.length) 0 ++ bs) := by
  have hlength : (fs ++ List.replicate (8 - fs.length) 0).length = 8 := by
    rw [List.length_append, List.length_replicate]
    omega
  have hzeros : 8 - bs.length - fs.length = 8 - fs.length - bs.length := by omega
  rw [Slice.fill_eq (Nat.le_of_eq hlength.symm) (by omega), List.drop_eq_nil_of_le (by omega),
    List.append_nil, List.take_append, List.take_of_length_le (by omega), List.take_replicate,
    Nat.min_eq_left (by omega), hzeros]

/-- **Both sides of a gap fit into the array**, and no second gap is overlooked.  A gap stands for
one group of zeros at least, so the sides have seven groups together at most. -/
theorem readGapped_eq {cs front back : List Char} (h : splitGap cs = some (front, back)) :
    readGapped (Slice.size front) cs = liftOption (gapped? front back) := by
  have hcs := eq_append_of_splitGap h
  have hfront : Slice.cut (Slice.size front) cs = pure (front, ':' :: ':' :: back) := by
    rw [hcs, Slice.cut_size]
  have hback : Slice.cut (Slice.size front + 2) cs = pure (front ++ [':', ':'], back) := by
    have hsize : Slice.size front + 2 = Slice.size (front ++ [':', ':']) :=
      (Slice.size_append front [':', ':']).symm
    rw [hcs, hsize, ← Slice.cut_size, List.append_assoc]
    rfl
  have hgap : (Slice.find? "::".toList back).isSome = (splitGap back).isSome := by
    rw [find?_gap, Option.isSome_map]
  rw [readGapped, hfront, hback, gapped?]
  simp only [pure_bind, hgap, readRun_eq]
  cases hfs : run? false front with
  | none => simp
  | some fs =>
    cases hbs : run? true back with
    | none =>
      by_cases hle : fs.length ≤ 8
      · simp [hle]
      · simp [hle]
    | some bs =>
      rw [splitGap_of_run? hbs]
      by_cases hshort : fs.length + bs.length ≤ 7
      · have hfs : fs.length ≤ 8 := by omega
        have hbs : bs.length ≤ 8 := by omega
        simp only [Option.isSome_none, Bool.false_eq_true, if_false, Option.bind_some, if_pos hfs,
          if_pos hbs, liftOption_some, pure_bind, if_neg (Nat.not_lt.2 hshort),
          Slice.minus_eq hbs, fill_front hfs, fill_back (Nat.le_succ_of_le hshort),
          Option.bind_eq_bind, if_pos hshort, Option.pure_def]
      · by_cases hfs : fs.length ≤ 8
        · by_cases hbs : bs.length ≤ 8
          · simp [hfs, hbs, hshort, Nat.lt_of_not_le hshort]
          · simp [hfs, hbs, hshort]
        · simp [hfs, hshort]

/-- **The groups of a text are put into their array**, with a gap or without one. -/
theorem readGroups_eq (cs : List Char) : readGroups cs = liftOption (ipv6Groups? cs) := by
  rw [readGroups, find?_gap, ipv6Groups?]
  cases hgap : splitGap cs with
  | none => exact readWhole_eq cs
  | some sides => exact readGapped_eq hgap

/-- **Groups are spread over the bytes two by two.**  The side condition says that there is room for
the groups that are left; the array of sixteen bytes grants it for eight. -/
theorem spread_eq (gs : List Nat) : ∀ (i : Nat) (bytes : List Nat),
    2 * (i + gs.length) ≤ bytes.length →
    spread i bytes gs = pure
      (bytes.take (2 * i) ++ gs.flatMap groupBytes ++ bytes.drop (2 * (i + gs.length))) := by
  induction gs with
  | nil =>
    intro i bytes hroom
    simp [spread]
  | cons g gs ih =>
    intro i bytes hroom
    rw [List.length_cons] at hroom
    have hfill : Slice.fill bytes (2 * i) (2 * i + 2) (groupBytes g) =
        pure (bytes.take (2 * i) ++ groupBytes g ++ bytes.drop (2 * i + 2)) :=
      Slice.fill_eq (by omega) rfl
    have htake : (bytes.take (2 * i)).length = 2 * i := by
      rw [List.length_take]
      omega
    have hdone : (bytes.take (2 * i) ++ groupBytes g).length = 2 * (i + 1) := by
      rw [List.length_append, htake]
      rfl
    have hlength : (bytes.take (2 * i) ++ groupBytes g ++ bytes.drop (2 * i + 2)).length =
        bytes.length := by
      rw [List.length_append, hdone, List.length_drop]
      omega
    have hrest : 2 * i + 2 + (2 * (i + 1 + gs.length) - 2 * (i + 1)) =
        2 * (i + (gs.length + 1)) := by omega
    rw [spread, ← groupBytes, hfill, pure_bind, ih _ _ (by omega), List.take_left' hdone,
      List.drop_append, List.drop_eq_nil_of_le (by omega), List.nil_append, List.drop_drop, hdone,
      hrest, List.flatMap_cons, List.length_cons, List.append_assoc (bytes.take (2 * i))]

/-- An IPv6 text stands for eight groups or for none, so the bytes behind the reading are
sixteen. -/
theorem length_of_ipv6Groups? {cs : List Char} {gs : List Nat} (h : ipv6Groups? cs = some gs) :
    gs.length = 8 := by
  rw [ipv6Groups?] at h
  split at h
  · obtain ⟨parsed, -, hparsed⟩ := Option.bind_eq_some_iff.1 h
    split at hparsed
    · next hfull =>
      cases hparsed
      exact hfull
    · cases hparsed
  · obtain ⟨fs, -, h⟩ := Option.bind_eq_some_iff.1 h
    obtain ⟨bs, -, h⟩ := Option.bind_eq_some_iff.1 h
    split at h
    · cases h
      simp only [List.length_append, List.length_replicate]
      omega
    · cases h

/-! ## 7. The address -/

/-- **Reading leaves no bound and gives the bytes of the groups.**  Every slice and every index of
the reader stands on the right side, for whatever text. -/
theorem ipv6Bytes_eq (cs : List Char) :
    ipv6Bytes cs = liftOption ((ipv6Groups? cs).map fun gs => gs.flatMap groupBytes) := by
  by_cases hnil : cs = []
  · subst hnil
    rfl
  rw [ipv6Bytes, if_neg (by simpa using hnil), readGroups_eq]
  cases hgs : ipv6Groups? cs with
  | none => rfl
  | some gs =>
    have hlength := length_of_ipv6Groups? hgs
    have hspread := spread_eq gs 0 (List.replicate 16 0) (by simp [hlength])
    rw [liftOption_some, pure_bind, hspread, hlength]
    simp

/-- Two bytes for each group are the same number in the end, since a group is its high byte shifted
and its low byte added. -/
theorem ofBytes_flatMap (gs : List Nat) : ofBytes (gs.flatMap groupBytes) = ofGroups gs := by
  have hfold : ∀ n : Nat, (gs.flatMap groupBytes).foldl (fun n b => n * 256 + b) n =
      gs.foldl (fun n g => n * 65536 + g) n := by
    induction gs with
    | nil => simp
    | cons g gs ih =>
      intro n
      have hg : (n * 256 + g / 256) * 256 + g % 256 = n * 65536 + g := by omega
      rw [List.flatMap_cons, groupBytes, List.foldl_append, List.foldl_cons, List.foldl_cons,
        List.foldl_nil, hg, List.foldl_cons, ih]
  exact hfold 0

/-- **The address of a text is the number of its groups**, so nothing of the arrays and offsets is
left in what an address text means. -/
theorem ipv6?_eq (cs : List Char) :
    ipv6? cs = (ipv6Groups? cs).map fun gs => BitVec.ofNat 128 (ofGroups gs) := by
  rw [ipv6?, ipv6Bytes_eq, run_liftOption]
  simp only [Option.map_map, Function.comp_def, ofBytes_flatMap]

end Turnstile.Address
