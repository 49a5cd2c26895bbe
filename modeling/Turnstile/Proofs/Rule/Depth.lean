/-
# The parser's count of open signs

The parser counts the signs `!` and `(` that are open, and takes them off one by one.  Here the
count is compared with two things that it is not computed from:

* **the levels** (section 1).  Each level around the current one stands for a group, and each level
  knows the negations in front of its next operand.  What they come to is the count (`Counted`),
  which every step keeps, so there is always enough to take off: no subtraction is made from zero
  (`Counted.covered`), and the count never passes the bound;
* **the signs taken so far** (sections 2 and 3).  A sign is open in them if no operand that begins
  at that sign ends in them (`opened`).  The grammar decides what an operand is, and the parser has
  no part in it.  What has been taken begins some derivation, and along that one the count and the
  open signs go up and down together (`depth_eq_opened`).

A parser is left where its run has stopped, so the same holds of what it leaves behind, and behind a
rule that it returns the count is zero again (`depth_parse`).
-/
import Mathlib
import Turnstile.Proofs.Rule.Diagnosis

namespace Turnstile.Parser

open Turnstile.Grammar

/-! ## 1. The levels -/

/-- What is left after some signs have been taken off, if there are that many.  The count is a
machine number, so without the bound it would wrap round. -/
theorem toNat_leave {depth : UInt64} {signs : Nat} (h : signs ≤ depth.toNat) :
    (leave depth signs).toNat = depth.toNat - signs := by
  induction signs generalizing depth with
  | zero => rfl
  | succ signs ih =>
    have hone : (1 : UInt64) ≤ depth := by
      rw [UInt64.le_iff_toNat_le, UInt64.toNat_one]
      omega
    have hless : (depth - 1).toNat = depth.toNat - 1 := by
      rw [UInt64.toNat_sub_of_le _ _ hone, UInt64.toNat_one]
    rw [leave, ih (by omega), hless]
    omega

/-- Each of several subtractions is made from a count that is not zero. -/
def Covers (depth : UInt64) (signs : Nat) : Prop :=
  ∀ n < signs, leave depth n ≠ 0

theorem covers_of_le {depth : UInt64} {signs : Nat} (h : signs ≤ depth.toNat) :
    Covers depth signs := by
  intro n hn hzero
  have hleft := toNat_leave (Nat.le_of_lt (Nat.lt_of_lt_of_le hn h))
  rw [hzero, UInt64.toNat_zero] at hleft
  omega

/-- The stages behind an operand. -/
def Stage.Behind : Stage → Prop
  | .joint | .action _ | .finish _ _ | .done _ _ => True
  | _ => False

/-- The stages behind the condition. -/
def Stage.Last : Stage → Prop
  | .action _ | .finish _ _ | .done _ _ => True
  | _ => False

theorem Stage.Last.behind {stage : Stage} (h : stage.Last) : stage.Behind := by
  cases stage with
  | action p => trivial
  | finish p a => trivial
  | done p a => trivial
  | _ => exact h.elim

namespace State

/-- What the levels of a state come to: a sign for each group around the current level, and the
negations that wait for their operand. -/
def due (st : State) : Nat :=
  st.outer.length + ((st.level :: st.outer).map Level.negations).sum

/-- The count of a state is what its levels come to, and within the bound.  No negation waits behind
an operand, and no group is open behind the condition. -/
structure Counted (st : State) : Prop where
  depth_eq : st.depth.toNat = st.due
  due_le : st.due ≤ maxDepth
  settled : st.stage.Behind → st.level.negations = 0
  outermost : st.stage.Last → st.outer = []

/-- What completing the operand takes off is there, and so is what closing the group takes off. -/
def Covered (st : State) : Prop :=
  Covers st.depth st.level.negations ∧
    ∀ around outer, st.outer = around :: outer → Covers st.depth (around.negations + 1)

variable {st st' : State}

theorem Counted.covered (h : st.Counted) : st.Covered := by
  have hdue := h.depth_eq
  refine ⟨covers_of_le ?_, fun around outer houter => covers_of_le ?_⟩
  · simp only [due, List.map_cons, List.sum_cons] at hdue
    omega
  · simp only [due, houter, List.length_cons, List.map_cons, List.sum_cons] at hdue
    omega

theorem Counted.start : Counted {} :=
  ⟨rfl, Nat.zero_le _, fun _ => rfl, fun _ => rfl⟩

/-- On the way through a test nothing is opened or closed, so the count and what it counts stay as
they are. -/
theorem Counted.goto (h : st.Counted) {stage : Stage} (hstage : ¬stage.Behind) :
    (st.goto stage).Counted :=
  ⟨h.depth_eq, h.due_le, fun hbehind => absurd hbehind hstage,
    fun hlast => absurd hlast.behind hstage⟩

/-- A sign that is opened within the bound is counted.  The parser tests the bound before it counts,
so the sum does not overflow. -/
theorem Counted.opens (h : st.Counted) (hroom : st.depth.toNat ≠ maxDepth)
    (hdepth : st'.depth = st.depth + 1) (hdue : st'.due = st.due + 1)
    (hstage : st'.stage = .operand) : st'.Counted := by
  have hlt : st.depth.toNat < maxDepth := Nat.lt_of_le_of_ne (h.depth_eq ▸ h.due_le) hroom
  refine ⟨?_, ?_, fun hbehind => ?_, fun hlast => ?_⟩
  · rw [hdepth, hdue, ← h.depth_eq]
    exact toNat_depth_add_one hlt
  · rw [hdue, ← h.depth_eq]
    exact hlt
  · rw [hstage] at hbehind
    exact hbehind.elim
  · rw [hstage] at hlast
    exact hlast.elim

theorem Counted.negate (h : st.Counted) (hroom : st.depth.toNat ≠ maxDepth) :
    st.negate.Counted := by
  refine h.opens hroom rfl ?_ rfl
  simp only [due, State.negate, List.map_cons, List.sum_cons]
  omega

theorem Counted.enter (h : st.Counted) (hroom : st.depth.toNat ≠ maxDepth) :
    st.enter.Counted := by
  refine h.opens hroom rfl ?_ rfl
  simp only [due, State.enter, List.length_cons, List.map_cons, List.sum_cons]
  omega

/-- The negations in front of an operand are closed with it, all at once, since they end where it
ends. -/
theorem Counted.complete (h : st.Counted) (p : Predicate) : (st.complete p).Counted := by
  have hdue : (st.complete p).due + st.level.negations = st.due := by
    simp only [due, State.complete, Level.add, List.map_cons, List.sum_cons]
    omega
  have hleave : (st.complete p).depth.toNat = st.depth.toNat - st.level.negations :=
    toNat_leave (by rw [h.depth_eq]; omega)
  have heq := h.depth_eq
  have hle := h.due_le
  exact ⟨by omega, by omega, fun _ => rfl, fun hlast => hlast.elim⟩

/-- A group is closed with the negations in front of it, which are those of the level around. -/
theorem Counted.close (h : st.Counted) (hstage : st.stage = .joint) {around : Level}
    {outer : List Level} (houter : st.outer = around :: outer) (p : Predicate) :
    Counted ⟨around.add p, outer, .joint, leave st.depth (around.negations + 1)⟩ := by
  have hsettled : st.level.negations = 0 := h.settled (by rw [hstage]; trivial)
  have hdue : due ⟨around.add p, outer, .joint, leave st.depth (around.negations + 1)⟩ +
      (around.negations + 1) = st.due := by
    simp only [due, houter, hsettled, Level.add, List.length_cons, List.map_cons, List.sum_cons]
    omega
  have hleave : (leave st.depth (around.negations + 1)).toNat =
      st.depth.toNat - (around.negations + 1) :=
    toNat_leave (by rw [h.depth_eq]; omega)
  have heq := h.depth_eq
  have hle := h.due_le
  exact ⟨by dsimp only; omega, by omega, fun _ => rfl, fun hlast => hlast.elim⟩

/-- **Every sign keeps the count right.**  One lemma above for each kind of sign; a sign that is
refused ends the run. -/
theorem Counted.feed {t : TokenKind} (h : st.Counted) (hfeed : st.feed t = .ok st') :
    st'.Counted := by
  cases hs : st.stage with
  | operand =>
    obtain ⟨w, -, rfl⟩ | ⟨-, hroom, rfl⟩ | ⟨-, hroom, rfl⟩ := feed_operand_ok hs hfeed
    · refine h.goto ?_
      obtain ⟨-, hw⟩ | ⟨-, hw⟩ | ⟨s, -, hw⟩ := subject_cases w
      all_goals
        rw [hw]
        exact id
    · exact h.negate hroom
    · exact h.enter hroom
  | address =>
    obtain ⟨-, rfl⟩ | ⟨-, rfl⟩ | ⟨-, rfl⟩ := feed_address_ok hs hfeed
    all_goals exact h.goto id
  | addressIs =>
    obtain ⟨_, _, -, -, rfl⟩ := feed_addressIs_ok hs hfeed
    exact h.complete _
  | addressIn =>
    obtain ⟨_, _, -, -, rfl⟩ := feed_addressIn_ok hs hfeed
    exact h.complete _
  | addressListed =>
    obtain ⟨_, -, rfl⟩ := feed_addressListed_ok hs hfeed
    exact h.complete _
  | field f =>
    obtain ⟨-, rfl⟩ | ⟨-, rfl⟩ := feed_field_ok hs hfeed
    all_goals exact h.goto id
  | fieldIs f =>
    obtain ⟨_, -, rfl⟩ := feed_fieldIs_ok hs hfeed
    exact h.complete _
  | fieldMatches f =>
    obtain ⟨_, _, -, -, rfl⟩ := feed_fieldMatches_ok hs hfeed
    exact h.complete _
  | hits =>
    obtain ⟨-, rfl⟩ := feed_hits_ok hs hfeed
    exact h.goto id
  | hitsAbove =>
    obtain ⟨_, _, -, -, rfl⟩ := feed_hitsAbove_ok hs hfeed
    exact h.complete _
  | joint =>
    have hsettled := h.settled (by rw [hs]; trivial)
    obtain ⟨-, rfl⟩ | ⟨-, rfl⟩ | ⟨-, around, outer, houter, rfl⟩ | ⟨-, houter, rfl⟩ :=
      feed_joint_ok hs hfeed
    · exact h.goto id
    · exact ⟨h.depth_eq, h.due_le, fun hbehind => hbehind.elim, fun hlast => hlast.elim⟩
    · exact h.close hs houter _
    · exact ⟨h.depth_eq, h.due_le, fun _ => hsettled, fun _ => houter⟩
  | action p =>
    obtain ⟨_, -, rfl⟩ := feed_action_ok hs hfeed
    exact ⟨h.depth_eq, h.due_le, fun _ => h.settled (by rw [hs]; trivial),
      fun _ => h.outermost (by rw [hs]; trivial)⟩
  | finish p a =>
    obtain ⟨-, rfl⟩ := feed_finish_ok hs hfeed
    exact ⟨h.depth_eq, h.due_le, fun _ => h.settled (by rw [hs]; trivial),
      fun _ => h.outermost (by rw [hs]; trivial)⟩
  | done p a => exact absurd hfeed (feed_done_ne hs)

/-- **Every run keeps it right**, by induction on the signs, from any state in which it is right. -/
theorem Counted.feeds {ts : List TokenKind} (h : st.Counted) (hfeeds : feeds st ts = .ok st') :
    st'.Counted := by
  induction ts generalizing st with
  | nil =>
    obtain rfl := Except.ok.inj hfeeds
    exact h
  | cons t ts ih =>
    obtain ⟨st₁, hfeed, hrest⟩ := feeds_cons_ok hfeeds
    exact ih (h.feed hfeed) hrest

/-- Behind the condition nothing is open, since no level is left around and no negation waits for an
operand. -/
theorem Counted.depth_eq_zero (h : st.Counted) (hlast : st.stage.Last) : st.depth = 0 := by
  refine UInt64.toNat.inj ?_
  rw [h.depth_eq, due, h.outermost hlast, List.map_cons, List.sum_cons, h.settled hlast.behind]
  rfl

end State

/-! ## 2. Open signs -/

open Classical in
/-- How many of the signs `!` and `(` are open behind the last sign: those at which no operand
begins that ends among the signs. -/
noncomputable def opened : List TokenKind → Nat
  | [] => 0
  | t :: ts =>
    if (t = .bang ∨ t = .openGroup) ∧ ¬ ∃ o : Operand, o.signs <+: t :: ts then opened ts + 1
    else opened ts

/-- Other signs are never open: only a negation and a bracket wait for the end of an operand. -/
theorem opened_cons {t : TokenKind} (ts : List TokenKind) (hbang : t ≠ .bang)
    (hgroup : t ≠ .openGroup) : opened (t :: ts) = opened ts :=
  if_neg fun h => h.1.elim hbang hgroup

theorem opened_eq_zero {ts : List TokenKind} (h : ∀ t ∈ ts, t ≠ .bang ∧ t ≠ .openGroup) :
    opened ts = 0 := by
  induction ts with
  | nil => rfl
  | cons t ts ih =>
    obtain ⟨ht, hts⟩ := List.forall_mem_cons.1 h
    rw [opened_cons ts ht.1 ht.2, ih hts]

/-- Nor is a sign whose operand has ended, which is how the count of open signs comes down again. -/
theorem opened_cons_of_prefix {t : TokenKind} {ts : List TokenKind} (o : Operand)
    (h : o.signs <+: t :: ts) : opened (t :: ts) = opened ts :=
  if_neg fun hopen => hopen.2 ⟨o, h⟩

/-- **A sign is open as long as its own operand goes on**, since no other operand begins with it. -/
theorem opened_cons_of_strict {t : TokenKind} {ts rest : List TokenKind} (o : Operand)
    (ht : t = .bang ∨ t = .openGroup) (h : o.signs = t :: ts ++ rest) (hrest : rest ≠ []) :
    opened (t :: ts) = opened ts + 1 := by
  refine if_pos ⟨ht, ?_⟩
  rintro ⟨o', more, ho'⟩
  have hsame : o'.signs ++ (more ++ rest) = o.signs ++ [] := by
    rw [← List.append_assoc, ho', h, List.append_nil]
  obtain ⟨-, hnil⟩ := Operand.eq_of_signs o' o hsame
  exact hrest (List.append_eq_nil_iff.1 hnil).2

/-- A test has no signs to open, though the strings in it may hold such characters. -/
theorem opened_test (t : Test) (ts : List TokenKind) : opened (t.signs ++ ts) = opened ts := by
  cases t
  all_goals
    simp only [Test.signs, List.cons_append, List.nil_append]
    rw [opened_cons _ (by simp) (by simp), opened_cons _ (by simp) (by simp),
      opened_cons _ (by simp) (by simp)]

mutual

/-- **Behind an operand none of its signs is open**: each negation and each bracket in it has met
its end. -/
theorem opened_operand : ∀ (o : Operand) (ts : List TokenKind), opened (o.signs ++ ts) = opened ts
  | .test t, ts => opened_test t ts
  | .bang o, ts => by
    rw [Operand.signs, List.cons_append, opened_cons_of_prefix (.bang o), opened_operand o]
    exact ⟨ts, rfl⟩
  | .group d, ts => by
    rw [Operand.signs, List.cons_append, List.cons_append, List.append_assoc,
      opened_cons_of_prefix (.group d), opened_disjunction d, List.singleton_append,
      opened_cons _ (by simp) (by simp)]
    exact ⟨ts, by simp [Operand.signs]⟩

theorem opened_conjunction : ∀ (c : Conjunction) (ts : List TokenKind),
    opened (c.signs ++ ts) = opened ts
  | .last o, ts => opened_operand o ts
  | .both o c, ts => by
    rw [Conjunction.signs, List.append_assoc, opened_operand o, List.cons_append,
      opened_cons _ (by simp) (by simp), opened_conjunction c]

theorem opened_disjunction : ∀ (d : Disjunction) (ts : List TokenKind),
    opened (d.signs ++ ts) = opened ts
  | .last c, ts => opened_conjunction c ts
  | .either c d, ts => by
    rw [Disjunction.signs, List.append_assoc, opened_conjunction c, List.cons_append,
      opened_cons _ (by simp) (by simp), opened_disjunction d]

end

/-! ## 3. Along a derivation -/

variable {st st' : State} {ts rest : List TokenKind}

/-- The sign behind the subject of a test opens and closes nothing, whatever subject it is. -/
theorem depth_feed_subject {w : String} {t : TokenKind}
    (h : (st.goto (State.subject w)).feed t = .ok st') : st'.depth = st.depth := by
  obtain ⟨-, hw⟩ | ⟨-, hw⟩ | ⟨s, -, hw⟩ := subject_cases w
  · rw [hw] at h
    obtain ⟨-, rfl⟩ | ⟨-, rfl⟩ | ⟨-, rfl⟩ := feed_address_ok rfl h
    all_goals rfl
  · rw [hw] at h
    obtain ⟨-, rfl⟩ := feed_hits_ok rfl h
    rfl
  · rw [hw] at h
    obtain ⟨-, rfl⟩ | ⟨-, rfl⟩ := feed_field_ok rfl h
    all_goals rfl

/-- Within a test the count stays as it was, and no sign is open.  The last sign of the test is left
out, since negations in front may end with it. -/
theorem depth_test {t : Test} (hs : st.stage = .operand) (h : t.signs = ts ++ rest)
    (hrest : rest ≠ []) (hfeeds : feeds st ts = .ok st') :
    st'.depth = st.depth ∧ opened ts = 0 := by
  have hplain : ∀ k ∈ t.signs, k ≠ .bang ∧ k ≠ .openGroup := by
    cases t <;> simp [Test.signs]
  refine ⟨?_, opened_eq_zero fun k hk => hplain k (h ▸ List.mem_append_left rest hk)⟩
  obtain ⟨w, y, z, ht⟩ : ∃ w y z, t.signs = [.word w, y, z] := by
    cases t <;> exact ⟨_, _, _, rfl⟩
  have hword : st.feed (.word w) = .ok (st.goto (State.subject w)) := by
    obtain ⟨level, outer, stage, depth⟩ := st
    obtain rfl : stage = .operand := hs
    rfl
  rw [ht] at h
  rcases ts with _ | ⟨a, _ | ⟨b, _ | ⟨c, more⟩⟩⟩
  · obtain rfl := Except.ok.inj hfeeds
    rfl
  · obtain ⟨rfl, -⟩ := List.cons.inj h
    rw [feeds_cons _ hword] at hfeeds
    obtain rfl := Except.ok.inj hfeeds
    rfl
  · obtain ⟨rfl, -⟩ := List.cons.inj h
    rw [feeds_cons _ hword] at hfeeds
    obtain ⟨st₁, hfeed, hend⟩ := feeds_cons_ok hfeeds
    obtain rfl := Except.ok.inj hend
    exact depth_feed_subject hfeed
  · -- all three signs are taken, so nothing is left
    have hlength := congrArg List.length h
    have hpos := List.length_pos_iff.2 hrest
    simp only [List.length_cons, List.length_append, List.length_nil] at hlength
    omega

/-- At the end of an operand with no negation in front, the count is what it was.  With a negation
in front it would have come down by more. -/
theorem depth_behind_operand (o : Operand) (hs : st.stage = .operand)
    (hn : st.level.negations = 0) (hd : st.depth.toNat + o.nesting ≤ maxDepth)
    (hfeeds : feeds st o.signs = .ok st') : st'.depth.toNat = st.depth.toNat + opened o.signs := by
  obtain rfl := Except.ok.inj ((feeds_operand o st hs hd).symm.trans hfeeds)
  have hopened := opened_operand o []
  rw [List.append_nil] at hopened
  rw [State.depth_complete hn, hopened]
  rfl

mutual

/-- **Within an operand**, the count has gone up by the signs that are open.  Its end is left out,
since the last sign closes what is in front as well. -/
theorem depth_operand : ∀ (o : Operand) {ts rest : List TokenKind} {st st' : State},
    o.signs = ts ++ rest → rest ≠ [] → st.stage = .operand →
    st.depth.toNat + o.nesting ≤ maxDepth → feeds st ts = .ok st' →
    st'.depth.toNat = st.depth.toNat + opened ts
  | .test t, ts, rest, st, st', h, hrest, hs, _, hfeeds => by
    obtain ⟨hdepth, hopened⟩ := depth_test hs h hrest hfeeds
    rw [hdepth, hopened]
    rfl
  | .bang o, [], rest, st, st', h, hrest, hs, _, hfeeds => by
    obtain rfl := Except.ok.inj hfeeds
    rfl
  | .bang o, t :: ts, rest, st, st', h, hrest, hs, hd, hfeeds => by
    obtain ⟨rfl, (ho : o.signs = ts ++ rest)⟩ := List.cons.inj h
    rw [Operand.nesting] at hd
    have hdepth : st.negate.depth.toNat = st.depth.toNat + 1 :=
      State.toNat_depth_add_one (by omega)
    rw [feeds_cons _ (feed_bang hs (by omega))] at hfeeds
    rw [opened_cons_of_strict (.bang o) (.inl rfl) h hrest,
      depth_operand o ho hrest rfl (by omega) hfeeds, hdepth]
    omega
  | .group d, [], rest, st, st', h, hrest, hs, _, hfeeds => by
    obtain rfl := Except.ok.inj hfeeds
    rfl
  | .group d, t :: ts, rest, st, st', h, hrest, hs, hd, hfeeds => by
    obtain ⟨rfl, (hgroup : d.signs ++ [TokenKind.closeGroup] = ts ++ rest)⟩ := List.cons.inj h
    rw [Operand.nesting] at hd
    have hdepth : st.enter.depth.toNat = st.depth.toNat + 1 :=
      State.toNat_depth_add_one (by omega)
    rw [feeds_cons _ (feed_openGroup hs (by omega))] at hfeeds
    -- the closing sign is in the rest, so what has been taken belongs to the group
    obtain ⟨inner, hinner⟩ : ts <+: d.signs := by
      rcases List.prefix_concat_iff.1 ⟨rest, hgroup.symm⟩ with hall | hprefix
      · rw [hall] at hgroup
        exact absurd (List.self_eq_append_right.1 hgroup) hrest
      · exact hprefix
    rw [opened_cons_of_strict (.group d) (.inr rfl) h hrest,
      depth_disjunction d hinner.symm rfl rfl (by omega) hfeeds, hdepth]
    omega

/-- The same within a conjunction, or at its end, where the operands before the last one are closed
and count for nothing. -/
theorem depth_conjunction : ∀ (c : Conjunction) {ts rest : List TokenKind} {st st' : State},
    c.signs = ts ++ rest → st.stage = .operand → st.level.negations = 0 →
    st.depth.toNat + c.nesting ≤ maxDepth → feeds st ts = .ok st' →
    st'.depth.toNat = st.depth.toNat + opened ts
  | .last o, ts, rest, st, st', h, hs, hn, hd, hfeeds => by
    by_cases hrest : rest = []
    · obtain rfl : o.signs = ts := by rw [← List.append_nil ts, ← hrest]; exact h
      exact depth_behind_operand o hs hn hd hfeeds
    · exact depth_operand o h hrest hs hd hfeeds
  | .both o c, ts, rest, st, st', h, hs, hn, hd, hfeeds => by
    rw [Conjunction.nesting] at hd
    have ho : feeds st o.signs = .ok (st.complete o.tree) := feeds_operand o st hs (by omega)
    rcases List.append_eq_append_iff.1 h with ⟨_ | ⟨t, more⟩, rfl, hmore⟩ | ⟨inner, hinner, -⟩
    · rw [List.append_nil] at hfeeds ⊢
      exact depth_behind_operand o hs hn (by omega) hfeeds
    · obtain ⟨rfl, (hc : c.signs = more ++ rest)⟩ := List.cons.inj hmore
      rw [feeds_append _ ho, feeds_cons _ rfl] at hfeeds
      have hdepth : ((st.complete o.tree).goto .operand).depth = st.depth :=
        State.depth_complete hn o.tree
      have hmore := depth_conjunction c hc rfl rfl (by rw [hdepth]; omega) hfeeds
      rw [hmore, hdepth, opened_operand o, opened_cons _ (by simp) (by simp)]
    · by_cases hnil : inner = []
      · obtain rfl : o.signs = ts := by rw [hinner, hnil, List.append_nil]
        exact depth_behind_operand o hs hn (by omega) hfeeds
      · exact depth_operand o hinner hnil hs (by omega) hfeeds

/-- The same within a disjunction, or at its end.  The three are proved together, as operands hold
disjunctions in their brackets. -/
theorem depth_disjunction : ∀ (d : Disjunction) {ts rest : List TokenKind} {st st' : State},
    d.signs = ts ++ rest → st.stage = .operand → st.level.negations = 0 →
    st.depth.toNat + d.nesting ≤ maxDepth → feeds st ts = .ok st' →
    st'.depth.toNat = st.depth.toNat + opened ts
  | .last c, ts, rest, st, st', h, hs, hn, hd, hfeeds => depth_conjunction c h hs hn hd hfeeds
  | .either c d, ts, rest, st, st', h, hs, hn, hd, hfeeds => by
    rw [Disjunction.nesting] at hd
    have hc : feeds st c.signs = .ok ⟨{ st.level with
        operands := c.trees.reverse ++ st.level.operands }, st.outer, .joint, st.depth⟩ := by
      rw [feeds_conjunction c st hs hn (by omega), foldl_complete st hn _ c.trees_ne_nil]
    rcases List.append_eq_append_iff.1 h with ⟨_ | ⟨t, more⟩, rfl, hmore⟩ | ⟨inner, hinner, -⟩
    · rw [List.append_nil] at hfeeds ⊢
      exact depth_conjunction c (List.append_nil _).symm hs hn (by omega) hfeeds
    · obtain ⟨rfl, (hd' : d.signs = more ++ rest)⟩ := List.cons.inj hmore
      obtain ⟨st₁, heither, hs₁, hn₁, hdepth⟩ : ∃ st₁, State.feed ⟨{ st.level with
          operands := c.trees.reverse ++ st.level.operands }, st.outer, .joint, st.depth⟩ .either =
            .ok st₁ ∧ st₁.stage = .operand ∧ st₁.level.negations = 0 ∧ st₁.depth = st.depth :=
        ⟨_, rfl, rfl, hn, rfl⟩
      rw [feeds_append _ hc, feeds_cons _ heither] at hfeeds
      rw [depth_disjunction d hd' hs₁ hn₁ (by rw [hdepth]; omega) hfeeds, hdepth,
        opened_conjunction c, opened_cons _ (by simp) (by simp)]
    · exact depth_conjunction c hinner hs hn (by omega) hfeeds

end

/-- What has been taken begins some derivation within the bound, so that facts on derivations can be
used of runs that have not ended. -/
theorem exists_sentence_of_feeds (h : feeds {} ts = .ok st) :
    ∃ (d : Sentence) (rest : List TokenKind), d.condition.nesting ≤ maxDepth ∧
      d.signs ++ [.finish] = ts ++ rest := by
  by_cases hfinished : st.Finished
  · obtain ⟨d, hd, hnest, -⟩ := split_sentence h hfinished
    exact ⟨d, [], hnest, by rw [hd, List.append_nil]⟩
  · obtain ⟨ks, -, s, hs, hf⟩ := State.completable_of_not_finished hfinished
    obtain ⟨d, hd, hnest, -⟩ := split_sentence ((feeds_append _ h).trans hs) hf
    exact ⟨d, ks ++ [.finish], hnest, hd.symm⟩

/-- A run that is behind the condition stays there: only an action and the end sign can follow. -/
theorem last_of_feeds (hs : st.stage.Last) (h : feeds st ts = .ok st') : st'.stage.Last := by
  induction ts generalizing st with
  | nil =>
    obtain rfl := Except.ok.inj h
    exact hs
  | cons t ts ih =>
    obtain ⟨st₁, hfeed, hrest⟩ := feeds_cons_ok h
    refine ih ?_ hrest
    cases hstage : st.stage with
    | action p =>
      obtain ⟨_, -, rfl⟩ := feed_action_ok hstage hfeed
      trivial
    | finish p a =>
      obtain ⟨-, rfl⟩ := feed_finish_ok hstage hfeed
      trivial
    | done p a => exact absurd hfeed (feed_done_ne hstage)
    | _ =>
      rw [hstage] at hs
      exact hs.elim

/-- **The count is the number of open signs**, at every point of every run.  What is open is read
off the signs alone, without the parser. -/
theorem depth_eq_opened (h : feeds {} ts = .ok st) : st.depth.toNat = opened ts := by
  obtain ⟨⟨d, action⟩, rest, hnest, hsigns⟩ := exists_sentence_of_feeds h
  have hroom : (State.depth {}).toNat + d.nesting ≤ maxDepth := by
    rw [depth_start, Nat.zero_add]
    exact hnest
  rw [Sentence.signs, List.append_assoc] at hsigns
  rcases List.append_eq_append_iff.1 hsigns with ⟨_ | ⟨t, more⟩, rfl, hlast⟩ | ⟨inner, hinner, -⟩
  · rw [List.append_nil] at h ⊢
    rw [depth_disjunction d (List.append_nil _).symm rfl rfl hroom h, depth_start, Nat.zero_add]
  · -- behind the condition nothing is open any more
    have hplain : ∀ k ∈ t :: more, k ≠ .bang ∧ k ≠ .openGroup := by
      intro k hk
      have hmem : k ∈ [.arrow, .word action] ++ [TokenKind.finish] :=
        hlast ▸ List.mem_append_left rest hk
      simp only [List.mem_append, List.mem_cons, List.not_mem_nil, or_false] at hmem
      rcases hmem with (rfl | rfl) | rfl <;> simp
    obtain ⟨rfl, -⟩ := List.cons.inj hlast
    obtain ⟨l, hl, -⟩ := feeds_disjunction d {} rfl rfl rfl hroom
    have hend := State.Counted.start.feeds h
    rw [feeds_append _ hl, feeds_cons _ rfl] at h
    rw [opened_disjunction, opened_eq_zero hplain,
      hend.depth_eq_zero (last_of_feeds (by trivial) h)]
    rfl
  · rw [depth_disjunction d hinner rfl rfl hroom h, depth_start, Nat.zero_add]

/-! ## 4. Texts -/

/-- A parser is left in the state behind the signs that it has taken, whether it came to the end or
stopped at an error. -/
theorem feeds_take (tokens : List Token) (st : State) :
    ∃ before after, tokens = before ++ after ∧
      feeds st (before.map Token.kind) = .ok (Workspace.take st tokens).2.state := by
  induction tokens generalizing st with
  | nil => exact ⟨[], [], rfl, rfl⟩
  | cons t ts ih =>
    rw [Workspace.take]
    split
    · next st' hfeed =>
      obtain ⟨before, after, rfl, hbefore⟩ := ih st'
      refine ⟨t :: before, after, rfl, ?_⟩
      rw [List.map_cons, feeds_cons _ hfeed, hbefore]
    · exact ⟨[], t :: ts, rfl, rfl⟩

/-- A parse of a text that is scanned takes its signs, and leaves the workspace as it then is.  It
begins with a new state, so the old one does not appear on the right. -/
theorem parse_of_scan {text : String} {tokens : List Token}
    (hscan : Scanner.scan text.toList = .ok tokens) (w : Workspace) (id : RuleId) :
    w.parse id text =
      ((Workspace.take {} tokens).1.bind fun _ =>
          Workspace.rule id tokens (Workspace.take {} tokens).2.state,
        (Workspace.take {} tokens).2) := by
  unfold Workspace.parse
  rw [hscan]
  dsimp only
  rcases Workspace.take {} tokens with ⟨e | done, w'⟩
  · rfl
  · rfl

/-- Behind a rule that is returned nothing is open, so the count that the next parse finds is zero
even before it is reset. -/
theorem depth_parse {w : Workspace} {id : RuleId} {text : String} {r : Rule}
    (h : (w.parse id text).1 = .ok r) : (w.parse id text).2.state.depth = 0 := by
  cases hscan : Scanner.scan text.toList with
  | error e =>
    unfold Workspace.parse at h
    rw [hscan] at h
    cases h
  | ok tokens =>
    obtain ⟨before, after, -, hbefore⟩ := feeds_take tokens {}
    have hcounted := State.Counted.start.feeds hbefore
    rw [parse_of_scan hscan] at h ⊢
    cases htake : (Workspace.take {} tokens).1 with
    | error e =>
      rw [htake] at h
      cases h
    | ok done =>
      rw [htake] at h
      dsimp only [Except.bind, Workspace.rule] at h
      split at h
      · next p a hdone =>
        refine hcounted.depth_eq_zero ?_
        rw [hdone]
        trivial
      · cases h

end Turnstile.Parser
