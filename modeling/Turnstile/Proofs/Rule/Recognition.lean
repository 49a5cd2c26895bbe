/-
# The parser reads exactly the grammar

`Grammar.lean` says what rules look like; here the parser's automaton is shown to read
exactly those sequences of signs, and to build the tree that the derivation stands for.

* **Every derivation is read** (`feeds_operand`, `feeds_conjunction`,
  `feeds_disjunction`).  By induction on the derivation, with the parser's state as
  the parameter: the levels around the current one do not matter, and reading an operand
  gives back the state in which it began with one operand more.  In particular the depth is
  what it was, so it is never counted twice for siblings.
* **Whatever is read has a derivation** (`split_operand`, `split_conjunction`,
  `split_disjunction`).  By induction on the number of signs: a run that ends in a finished
  rule and begins before an operand takes the signs of one operand first, and is then where
  the first half says.

Both halves meet in `reads_of_parse` and `Reads.parse`.
-/
import Turnstile.Proofs.Rule.Grammar

namespace Turnstile.Parser

open Turnstile.Grammar

/-! ## 1. Runs of the automaton -/

/-- Feeds signs to the parser, up to the first that it has no use for. -/
def feeds (st : State) (ts : List TokenKind) : Except ParseFault State :=
  ts.foldlM State.feed st

@[simp] theorem feeds_nil (st : State) : feeds st [] = .ok st := rfl

theorem feeds_cons {st st' : State} {t : TokenKind} (ts : List TokenKind)
    (h : st.feed t = .ok st') : feeds st (t :: ts) = feeds st' ts := by
  simp only [feeds, List.foldlM_cons, h]
  rfl

/-- A run that takes a sign takes it from some state, which is how runs are taken apart from the
front. -/
theorem feeds_cons_ok {st s : State} {t : TokenKind} {ts : List TokenKind}
    (h : feeds st (t :: ts) = .ok s) : ∃ st', st.feed t = .ok st' ∧ feeds st' ts = .ok s := by
  cases hf : st.feed t with
  | error e =>
    simp only [feeds, List.foldlM_cons, hf] at h
    exact absurd h (by simp [bind, Except.bind])
  | ok st' => exact ⟨st', rfl, by rwa [feeds_cons ts hf] at h⟩

theorem feeds_append {st st' : State} {ts : List TokenKind} (us : List TokenKind)
    (h : feeds st ts = .ok st') : feeds st (ts ++ us) = feeds st' us := by
  simp only [feeds, List.foldlM_append] at h ⊢
  rw [h]
  rfl

/-- A run over several signs passes a state between any two of them, so runs can be cut where a
derivation is. -/
theorem feeds_append_ok {ts us : List TokenKind} {st s : State} (h : feeds st (ts ++ us) = .ok s) :
    ∃ st', feeds st ts = .ok st' ∧ feeds st' us = .ok s := by
  induction ts generalizing st with
  | nil => exact ⟨st, rfl, h⟩
  | cons t ts ih =>
    obtain ⟨st₁, hfeed, h⟩ := feeds_cons_ok h
    obtain ⟨st', hts, hus⟩ := ih h
    exact ⟨st', (feeds_cons ts hfeed).trans hts, hus⟩

/-- The signs of a text are taken one by one, and their places do not matter, except for where an
error is put. -/
theorem take_eq_feeds : ∀ (tokens : List Token) (st : State),
    match feeds st (tokens.map Token.kind) with
    | .ok s => Workspace.take st tokens = (.ok (), ⟨[], s⟩)
    | .error _ => ∃ e w, Workspace.take st tokens = (.error e, w)
  | [], st => rfl
  | t :: ts, st => by
    rw [List.map_cons]
    cases hf : st.feed t.kind with
    | error e =>
      have : feeds st (t.kind :: ts.map Token.kind) = .error e := by
        simp only [feeds, List.foldlM_cons, hf]
        rfl
      rw [this]
      exact ⟨_, _, by simp only [Workspace.take, hf]; rfl⟩
    | ok st' =>
      rw [feeds_cons _ hf, Workspace.take, hf]
      exact take_eq_feeds ts st'

/-! ## 2. Depth -/

/-- A sign more that is taken off again leaves the count as it was, even where the machine number
wraps round. -/
@[simp] theorem leave_add_one (depth : UInt64) (signs : Nat) :
    leave (depth + 1) (signs + 1) = leave depth signs := by
  rw [leave, UInt64.add_sub_cancel]

namespace State

/-- An operand without negations leaves the count as it was, since it has opened nothing that is
still counted. -/
theorem depth_complete {st : State} (hn : st.level.negations = 0) (p : Predicate) :
    (st.complete p).depth = st.depth := by
  rw [complete, hn, leave]

/-- Going on to another stage leaves the levels as they are, and with them the count. -/
@[simp] theorem depth_goto (st : State) (stage : Stage) : (st.goto stage).depth = st.depth := rfl

@[simp] theorem stage_goto (st : State) (stage : Stage) : (st.goto stage).stage = stage := rfl

/-- Behind a negation sign. -/
def negate (st : State) : State :=
  ⟨{ st.level with negations := st.level.negations + 1 }, st.outer, .operand, st.depth + 1⟩

/-- Behind an opening parenthesis. -/
def enter (st : State) : State :=
  ⟨{}, st.level :: st.outer, .operand, st.depth + 1⟩

/-- Within the bound, one sign more is counted.  The bound is far from where the machine number
wraps round. -/
theorem toNat_depth_add_one {st : State} (h : st.depth.toNat < maxDepth) :
    (st.depth + 1).toNat = st.depth.toNat + 1 := by
  have hmax : maxDepth = 64 := rfl
  rw [UInt64.toNat_add, UInt64.toNat_one, Nat.mod_eq_of_lt (by omega)]

/-- A negation sign in front of an operand is one more negation around its tree.  It is counted and
taken off again with the operand. -/
theorem complete_negate (st : State) (p : Predicate) :
    st.negate.complete p = st.complete (.not p) := by
  have h : ∀ n, Predicate.negated (n + 1) p = Predicate.negated n (.not p) := by
    intro n
    induction n with
    | zero => rfl
    | succ n ih => rw [Predicate.negated, ih]; rfl
  simp only [negate, complete, Level.add, h, leave_add_one]

end State

/-! ## 3. Every derivation is read -/

/-- Three signs, taken one after the other, as every test has them: a word, an operator and a
literal. -/
theorem feeds_three {st s t u : State} {x y z : TokenKind} (hx : st.feed x = .ok s)
    (hy : s.feed y = .ok t) (hz : t.feed z = .ok u) : feeds st [x, y, z] = .ok u := by
  rw [feeds_cons _ hx, feeds_cons _ hy, feeds_cons _ hz, feeds_nil]

/-- The word of a subject leads to the tests of its field, and the automaton asks for an operator
next. -/
theorem subject_word (s : Subject) : State.subject s.word = .field s.field := by
  cases s with
  | host => rfl
  | header name free =>
    simp only [List.mem_cons, List.not_mem_nil, or_false, not_or] at free
    simp [State.subject, Subject.word, Subject.field, free]

/-- The signs of a test complete its leaf, from any state in which an operand is due. -/
theorem feeds_test (t : Test) (st : State) (hs : st.stage = .operand) :
    feeds st t.signs = .ok (st.complete t.leaf) := by
  obtain ⟨level, outer, stage, depth⟩ := st
  obtain rfl : stage = .operand := hs
  have hsubject : ∀ s : Subject, State.feed ⟨level, outer, .operand, depth⟩ (.word s.word) =
      .ok ⟨level, outer, .field s.field, depth⟩ := by
    intro s
    rw [← subject_word]; rfl
  cases t with
  | addressIs w a ha =>
    refine feeds_three rfl rfl ?_
    simp only [State.feed, State.goto, ha]
    rfl
  | addressIn w b hb =>
    refine feeds_three rfl rfl ?_
    simp only [State.feed, State.goto, hb]
    rfl
  | addressListed l => exact feeds_three rfl rfl rfl
  | fieldIs s v => exact feeds_three (hsubject s) rfl rfl
  | fieldMatches s x p hp =>
    refine feeds_three (hsubject s) rfl ?_
    simp only [State.feed, State.goto, hp]
    rfl
  | hitsAbove w n hn =>
    refine feeds_three rfl rfl ?_
    simp only [State.feed, State.goto, hn]
    rfl

theorem feed_bang {st : State} (hs : st.stage = .operand) (hd : st.depth.toNat ≠ maxDepth) :
    st.feed .bang = .ok st.negate := by
  obtain ⟨level, outer, stage, depth⟩ := st
  obtain rfl : stage = .operand := hs
  exact if_neg hd

theorem feed_openGroup {st : State} (hs : st.stage = .operand) (hd : st.depth.toNat ≠ maxDepth) :
    st.feed .openGroup = .ok st.enter := by
  obtain ⟨level, outer, stage, depth⟩ := st
  obtain rfl : stage = .operand := hs
  exact if_neg hd

/-- The group that a parenthesis has opened is one operand, and is taken off the count.  The
negations in front of it are closed along with it. -/
theorem feed_closeGroup (st : State) (l : Level) :
    State.feed ⟨l, st.enter.outer, .joint, st.enter.depth⟩ .closeGroup =
      .ok (st.complete l.value) := by
  have hfeed : State.feed ⟨l, st.enter.outer, .joint, st.enter.depth⟩ .closeGroup =
      .ok ⟨st.level.add l.value, st.outer, .joint,
        leave (st.depth + 1) (st.level.negations + 1)⟩ := rfl
  rw [hfeed, leave_add_one]
  rfl

/-- Completing operands one after the other, in a level with no negation waiting, is to put them all
in front of those already there. -/
theorem foldl_complete (st : State) (hn : st.level.negations = 0) (ps : List Predicate)
    (hp : ps ≠ []) :
    ps.foldl State.complete st =
      ⟨{ st.level with operands := ps.reverse ++ st.level.operands }, st.outer, .joint,
        st.depth⟩ := by
  obtain ⟨⟨disjuncts, operands, negations⟩, outer, stage, depth⟩ := st
  obtain rfl : negations = 0 := hn
  induction ps generalizing operands stage with
  | nil => exact absurd rfl hp
  | cons p ps ih =>
    cases ps with
    | nil => rfl
    | cons q ps =>
      rw [List.foldl_cons]
      refine (ih (by simp) .joint (p :: operands)).trans ?_
      simp

mutual

/-- **An operand is read as its tree**, if the depth allows for it.  This is the completeness of the
parser, by recursion on the derivation. -/
theorem feeds_operand : ∀ (o : Operand) (st : State), st.stage = .operand →
    st.depth.toNat + o.nesting ≤ maxDepth → feeds st o.signs = .ok (st.complete o.tree)
  | .test t, st, hs, _ => feeds_test t st hs
  | .bang o, st, hs, hd => by
    rw [Operand.nesting] at hd
    have hdepth : st.negate.depth.toNat = st.depth.toNat + 1 :=
      State.toNat_depth_add_one (by omega)
    rw [Operand.signs, feeds_cons _ (feed_bang hs (by omega)),
      feeds_operand o st.negate rfl (by omega)]
    exact congrArg Except.ok (st.complete_negate o.tree)
  | .group d, st, hs, hd => by
    rw [Operand.nesting] at hd
    have hdepth : st.enter.depth.toNat = st.depth.toNat + 1 :=
      State.toNat_depth_add_one (by omega)
    obtain ⟨l, hl, hv⟩ := feeds_disjunction d st.enter rfl rfl rfl (by omega)
    rw [Operand.signs, List.cons_append, feeds_cons _ (feed_openGroup hs (by omega)),
      feeds_append _ hl, feeds_cons _ (feed_closeGroup st l), feeds_nil, hv]
    rfl

/-- **The operands of a conjunction are read one after the other**, with the sign between them that
keeps the level as it is. -/
theorem feeds_conjunction : ∀ (c : Conjunction) (st : State), st.stage = .operand →
    st.level.negations = 0 → st.depth.toNat + c.nesting ≤ maxDepth →
    feeds st c.signs = .ok (c.trees.foldl State.complete st)
  | .last o, st, hs, _, hd => feeds_operand o st hs hd
  | .both o c, st, hs, hn, hd => by
    rw [Conjunction.nesting] at hd
    have ho : feeds st o.signs = .ok (st.complete o.tree) :=
      feeds_operand o st hs (by omega)
    have hdepth : ((st.complete o.tree).goto .operand).depth.toNat + c.nesting ≤ maxDepth := by
      rw [State.depth_goto, State.depth_complete hn]
      omega
    rw [Conjunction.signs, feeds_append _ ho, feeds_cons _ rfl,
      feeds_conjunction c _ rfl rfl hdepth]
    have hc := c.trees_ne_nil
    rw [foldl_complete _ rfl _ hc, Conjunction.trees, List.foldl_cons, foldl_complete _ rfl _ hc]
    rfl

/-- **The conjunctions of a disjunction are read one after the other**, and the level is then
worth all of them. -/
theorem feeds_disjunction : ∀ (d : Disjunction) (st : State), st.stage = .operand →
    st.level.negations = 0 → st.level.operands = [] → st.depth.toNat + d.nesting ≤ maxDepth →
    ∃ l : Level, feeds st d.signs = .ok ⟨l, st.outer, .joint, st.depth⟩ ∧
      l.value = .joinAny (st.level.disjuncts.reverse ++ d.trees)
  | .last c, st, hs, hn, ho, hd => by
    refine ⟨_, (feeds_conjunction c st hs hn hd).trans
      (congrArg Except.ok (foldl_complete st hn _ c.trees_ne_nil)), ?_⟩
    simp [Level.value, Level.split, ho, Disjunction.trees]
  | .either c d, st, hs, hn, ho, hd => by
    rw [Disjunction.nesting] at hd
    have hc : feeds st c.signs =
        .ok ⟨{ st.level with operands := c.trees.reverse }, st.outer, .joint, st.depth⟩ := by
      rw [feeds_conjunction c st hs hn (by omega), foldl_complete st hn _ c.trees_ne_nil, ho,
        List.append_nil]
    have hfeed : State.feed ⟨{ st.level with operands := c.trees.reverse }, st.outer, .joint,
        st.depth⟩ .either = .ok ⟨{ disjuncts := .joinAll c.trees :: st.level.disjuncts }, st.outer,
          .operand, st.depth⟩ := by
      simp [State.feed, State.feedJoint, Level.split, hn]
    obtain ⟨l, hl, hv⟩ := feeds_disjunction d
      ⟨{ disjuncts := .joinAll c.trees :: st.level.disjuncts }, st.outer, .operand, st.depth⟩
      rfl rfl rfl (by dsimp only; omega)
    refine ⟨l, ?_, ?_⟩
    · rw [Disjunction.signs, feeds_append _ hc, feeds_cons _ hfeed, hl]
    · rw [hv, Disjunction.trees]
      simp

end

/-! ## 4. What a sign can do

One inversion for each stage: the signs that it takes, and where they lead. -/

section Inversion

variable {st st' : State} {t : TokenKind}

theorem feed_operand_ok (hs : st.stage = .operand) (h : st.feed t = .ok st') :
    (∃ w, t = .word w ∧ st' = st.goto (State.subject w)) ∨
    (t = .bang ∧ st.depth.toNat ≠ maxDepth ∧ st' = st.negate) ∨
    (t = .openGroup ∧ st.depth.toNat ≠ maxDepth ∧ st' = st.enter) := by
  obtain ⟨level, outer, stage, depth⟩ := st
  obtain rfl : stage = .operand := hs
  cases t with
  | word w => exact Or.inl ⟨w, rfl, (Except.ok.inj h).symm⟩
  | bang =>
    by_cases hd : depth.toNat = maxDepth
    · rw [show State.feed ⟨level, outer, .operand, depth⟩ .bang = _ from if_pos hd] at h
      cases h
    · rw [feed_bang rfl hd] at h
      exact Or.inr (Or.inl ⟨rfl, hd, (Except.ok.inj h).symm⟩)
  | openGroup =>
    by_cases hd : depth.toNat = maxDepth
    · rw [show State.feed ⟨level, outer, .operand, depth⟩ .openGroup = _ from if_pos hd] at h
      cases h
    · rw [feed_openGroup rfl hd] at h
      exact Or.inr (Or.inr ⟨rfl, hd, (Except.ok.inj h).symm⟩)
  | _ => cases h

theorem feed_address_ok (hs : st.stage = .address) (h : st.feed t = .ok st') :
    (t = .equals ∧ st' = st.goto .addressIs) ∨ (t = .tilde ∧ st' = st.goto .addressIn) ∨
    (t = .word "in" ∧ st' = st.goto .addressListed) := by
  cases t with
  | equals =>
    simp only [State.feed, hs] at h
    exact Or.inl ⟨rfl, (Except.ok.inj h).symm⟩
  | tilde =>
    simp only [State.feed, hs] at h
    exact Or.inr (Or.inl ⟨rfl, (Except.ok.inj h).symm⟩)
  | word w =>
    simp only [State.feed, hs] at h
    split at h
    · next hw => exact Or.inr (Or.inr ⟨by rw [hw], (Except.ok.inj h).symm⟩)
    · cases h
  | _ => simp [State.feed, hs] at h

theorem feed_addressIs_ok (hs : st.stage = .addressIs) (h : st.feed t = .ok st') :
    ∃ w a, t = .word w ∧ Address.ofString? w = some a ∧ st' = st.complete (.addressIs a) := by
  cases t with
  | word w =>
    simp only [State.feed, hs] at h
    split at h
    · next a ha => exact ⟨w, a, rfl, ha, (Except.ok.inj h).symm⟩
    · cases h
  | _ => simp [State.feed, hs] at h

theorem feed_addressIn_ok (hs : st.stage = .addressIn) (h : st.feed t = .ok st') :
    ∃ w b, t = .word w ∧ Block.read w = .ok b ∧ st' = st.complete (.addressIn b) := by
  cases t with
  | word w =>
    simp only [State.feed, hs] at h
    split at h
    · next b hb => exact ⟨w, b, rfl, hb, (Except.ok.inj h).symm⟩
    · cases h
  | _ => simp [State.feed, hs] at h

theorem feed_addressListed_ok (hs : st.stage = .addressListed) (h : st.feed t = .ok st') :
    ∃ w, t = .word w ∧ st' = st.complete (.addressListed w) := by
  cases t with
  | word w =>
    simp only [State.feed, hs] at h
    exact ⟨w, rfl, (Except.ok.inj h).symm⟩
  | _ => simp [State.feed, hs] at h

theorem feed_field_ok {f : Field} (hs : st.stage = .field f) (h : st.feed t = .ok st') :
    (t = .equals ∧ st' = st.goto (.fieldIs f)) ∨
      (t = .tilde ∧ st' = st.goto (.fieldMatches f)) := by
  cases t with
  | equals =>
    simp only [State.feed, hs] at h
    exact Or.inl ⟨rfl, (Except.ok.inj h).symm⟩
  | tilde =>
    simp only [State.feed, hs] at h
    exact Or.inr ⟨rfl, (Except.ok.inj h).symm⟩
  | _ => simp [State.feed, hs] at h

theorem feed_fieldIs_ok {f : Field} (hs : st.stage = .fieldIs f) (h : st.feed t = .ok st') :
    ∃ v, t = .string v ∧ st' = st.complete (.fieldIs f v) := by
  cases t with
  | string v =>
    simp only [State.feed, hs] at h
    exact ⟨v, rfl, (Except.ok.inj h).symm⟩
  | _ => simp [State.feed, hs] at h

theorem feed_fieldMatches_ok {f : Field} (hs : st.stage = .fieldMatches f)
    (h : st.feed t = .ok st') :
    ∃ x p, t = .regex x ∧ Pattern.ofSource x = .ok p ∧ st' = st.complete (.fieldMatches f p) := by
  cases t with
  | regex x =>
    simp only [State.feed, hs] at h
    split at h
    · next p hp => exact ⟨x, p, rfl, hp, (Except.ok.inj h).symm⟩
    · cases h
  | _ => simp [State.feed, hs] at h

theorem feed_hits_ok (hs : st.stage = .hits) (h : st.feed t = .ok st') :
    t = .greater ∧ st' = st.goto .hitsAbove := by
  cases t with
  | greater =>
    simp only [State.feed, hs] at h
    exact ⟨rfl, (Except.ok.inj h).symm⟩
  | _ => simp [State.feed, hs] at h

theorem feed_hitsAbove_ok (hs : st.stage = .hitsAbove) (h : st.feed t = .ok st') :
    ∃ w n, t = .word w ∧ State.count? w = some n ∧ st' = st.complete (.hitsAbove n) := by
  cases t with
  | word w =>
    simp only [State.feed, hs] at h
    split at h
    · next n hn => exact ⟨w, n, rfl, hn, (Except.ok.inj h).symm⟩
    · cases h
  | _ => simp [State.feed, hs] at h

theorem feed_joint_ok (hs : st.stage = .joint) (h : st.feed t = .ok st') :
    (t = .both ∧ st' = st.goto .operand) ∨
    (t = .either ∧ st' = ⟨st.level.split, st.outer, .operand, st.depth⟩) ∨
    (t = .closeGroup ∧ ∃ around outer, st.outer = around :: outer ∧
      st' = ⟨around.add st.level.value, outer, .joint, leave st.depth (around.negations + 1)⟩) ∨
    (t = .arrow ∧ st.outer = [] ∧ st' = st.goto (.action st.level.value)) := by
  obtain ⟨level, outer, stage, depth⟩ := st
  obtain rfl : stage = .joint := hs
  cases t with
  | both => exact Or.inl ⟨rfl, (Except.ok.inj h).symm⟩
  | either => exact Or.inr (Or.inl ⟨rfl, (Except.ok.inj h).symm⟩)
  | closeGroup =>
    cases outer with
    | nil => cases h
    | cons around outer =>
      exact Or.inr (Or.inr (Or.inl ⟨rfl, around, outer, rfl, (Except.ok.inj h).symm⟩))
  | arrow =>
    cases outer with
    | nil => exact Or.inr (Or.inr (Or.inr ⟨rfl, rfl, (Except.ok.inj h).symm⟩))
    | cons around outer => cases h
  | _ => cases outer <;> cases h

theorem feed_action_ok {p : Predicate} (hs : st.stage = .action p) (h : st.feed t = .ok st') :
    ∃ w, t = .word w ∧ st' = st.goto (.finish p w) := by
  cases t with
  | word w =>
    simp only [State.feed, hs] at h
    exact ⟨w, rfl, (Except.ok.inj h).symm⟩
  | _ => simp [State.feed, hs] at h

theorem feed_finish_ok {p : Predicate} {a : String} (hs : st.stage = .finish p a)
    (h : st.feed t = .ok st') : t = .finish ∧ st' = st.goto (.done p a) := by
  cases t with
  | finish =>
    simp only [State.feed, hs] at h
    exact ⟨rfl, (Except.ok.inj h).symm⟩
  | _ => simp [State.feed, hs] at h

theorem feed_done_ne {p : Predicate} {a : String} (hs : st.stage = .done p a) :
    st.feed t ≠ .ok st' := by
  simp [State.feed, hs]

end Inversion

/-! ## 5. Whatever is read has a derivation -/

/-- The parser has read a whole rule. -/
def State.Finished (st : State) : Prop := ∃ p a, st.stage = .done p a

/-- A run that finishes takes a sign, unless it has finished before.  The soundness below goes
through a run sign by sign with it. -/
theorem feeds_finished_cons {st s : State} {ts : List TokenKind} (h : feeds st ts = .ok s)
    (hf : s.Finished) (hn : ∀ p a, st.stage ≠ .done p a) :
    ∃ t rest st', ts = t :: rest ∧ st.feed t = .ok st' ∧ feeds st' rest = .ok s := by
  cases ts with
  | nil =>
    obtain rfl : st = s := Except.ok.inj h
    obtain ⟨p, a, hp⟩ := hf
    exact absurd hp (hn p a)
  | cons t rest =>
    obtain ⟨st', hfeed, hrest⟩ := feeds_cons_ok h
    exact ⟨t, rest, st', rfl, hfeed, hrest⟩

/-- The subject of a test of the request: its word is the one that leads to its field.  Addresses
and hits have tests of their own. -/
theorem subject_cases (w : String) :
    (w = "IP" ∧ State.subject w = .address) ∨ (w = "Hits" ∧ State.subject w = .hits) ∨
    ∃ s : Subject, w = s.word ∧ State.subject w = .field s.field := by
  by_cases hip : w = "IP"
  · exact Or.inl ⟨hip, by rw [hip]; rfl⟩
  · by_cases hhits : w = "Hits"
    · exact Or.inr (Or.inl ⟨hhits, by rw [hhits]; rfl⟩)
    · by_cases hhost : w = "Host"
      · exact Or.inr (Or.inr ⟨.host, hhost, by rw [hhost]; rfl⟩)
      · have free : w ∉ ["IP", "Host", "Hits"] := by simp [hip, hhits, hhost]
        exact Or.inr (Or.inr ⟨.header w free, rfl, subject_word (.header w free)⟩)

/-- **A test first.**  A run that begins with a word before an operand takes a whole test, or it
would not finish. -/
theorem split_test {st s : State} {w : String} {ts : List TokenKind}
    (h : feeds (st.goto (State.subject w)) ts = .ok s) (hf : s.Finished) :
    ∃ (t : Test) (rest : List TokenKind), .word w :: ts = t.signs ++ rest ∧
      feeds (st.complete t.leaf) rest = .ok s := by
  obtain ⟨rfl, hw⟩ | ⟨rfl, hw⟩ | ⟨subject, rfl, hw⟩ := subject_cases w
  · rw [hw] at h
    obtain ⟨t, ts, st₁, rfl, h₁, h⟩ := feeds_finished_cons h hf (by simp)
    obtain ⟨rfl, rfl⟩ | ⟨rfl, rfl⟩ | ⟨rfl, rfl⟩ := feed_address_ok rfl h₁
    · obtain ⟨t, ts, st₂, rfl, h₂, h⟩ := feeds_finished_cons h hf (by simp)
      obtain ⟨x, a, rfl, ha, rfl⟩ := feed_addressIs_ok rfl h₂
      exact ⟨.addressIs x a ha, ts, rfl, h⟩
    · obtain ⟨t, ts, st₂, rfl, h₂, h⟩ := feeds_finished_cons h hf (by simp)
      obtain ⟨x, b, rfl, hb, rfl⟩ := feed_addressIn_ok rfl h₂
      exact ⟨.addressIn x b hb, ts, rfl, h⟩
    · obtain ⟨t, ts, st₂, rfl, h₂, h⟩ := feeds_finished_cons h hf (by simp)
      obtain ⟨x, rfl, rfl⟩ := feed_addressListed_ok rfl h₂
      exact ⟨.addressListed x, ts, rfl, h⟩
  · rw [hw] at h
    obtain ⟨t, ts, st₁, rfl, h₁, h⟩ := feeds_finished_cons h hf (by simp)
    obtain ⟨rfl, rfl⟩ := feed_hits_ok rfl h₁
    obtain ⟨t, ts, st₂, rfl, h₂, h⟩ := feeds_finished_cons h hf (by simp)
    obtain ⟨x, n, rfl, hn, rfl⟩ := feed_hitsAbove_ok rfl h₂
    exact ⟨.hitsAbove x n hn, ts, rfl, h⟩
  · rw [hw] at h
    obtain ⟨t, ts, st₁, rfl, h₁, h⟩ := feeds_finished_cons h hf (by simp)
    obtain ⟨rfl, rfl⟩ | ⟨rfl, rfl⟩ := feed_field_ok rfl h₁
    · obtain ⟨t, ts, st₂, rfl, h₂, h⟩ := feeds_finished_cons h hf (by simp)
      obtain ⟨v, rfl, rfl⟩ := feed_fieldIs_ok rfl h₂
      exact ⟨.fieldIs subject v, ts, rfl, h⟩
    · obtain ⟨t, ts, st₂, rfl, h₂, h⟩ := feeds_finished_cons h hf (by simp)
      obtain ⟨x, p, rfl, hp, rfl⟩ := feed_fieldMatches_ok rfl h₂
      exact ⟨.fieldMatches subject x p hp, ts, rfl, h⟩

/-- No operand is empty, which is what the induction on the length of a run needs. -/
theorem Operand.length_signs_pos (o : Operand) : 0 < o.signs.length := by
  cases o with
  | test t => cases t <;> simp [Operand.signs, Test.signs]
  | bang o => simp [Operand.signs]
  | group d => simp [Operand.signs]

mutual

/-- **An operand first.**  A run that begins before an operand takes the signs of one, and is
then behind its tree.  What is open in front of the operand leaves room for its nesting. -/
theorem split_operand (ts : List TokenKind) (st s : State) (hs : st.stage = .operand)
    (hd : st.depth.toNat ≤ maxDepth) (h : feeds st ts = .ok s) (hf : s.Finished) :
    ∃ (o : Operand) (rest : List TokenKind), ts = o.signs ++ rest ∧
      st.depth.toNat + o.nesting ≤ maxDepth ∧ feeds (st.complete o.tree) rest = .ok s := by
  obtain ⟨t, ts, st₁, rfl, h₁, h⟩ := feeds_finished_cons h hf (by simp [hs])
  obtain ⟨w, rfl, rfl⟩ | ⟨rfl, hroom, rfl⟩ | ⟨rfl, hroom, rfl⟩ := feed_operand_ok hs h₁
  · obtain ⟨t, rest, hts, hrest⟩ := split_test h hf
    exact ⟨.test t, rest, hts, by simpa [Operand.nesting] using hd, hrest⟩
  · have hopen : st.negate.depth.toNat = st.depth.toNat + 1 :=
      State.toNat_depth_add_one (by omega)
    obtain ⟨o, rest, rfl, hn, hrest⟩ := split_operand ts st.negate s rfl (by omega) h hf
    refine ⟨.bang o, rest, rfl, by rw [Operand.nesting]; omega, ?_⟩
    rwa [Operand.tree, ← State.complete_negate]
  · have hopen : st.enter.depth.toNat = st.depth.toNat + 1 :=
      State.toNat_depth_add_one (by omega)
    obtain ⟨d, l, rest, rfl, hn, hv, hb, he, hrest⟩ :=
      split_disjunction ts st.enter s rfl rfl rfl (by omega) h hf
    obtain ⟨t, rest, st₂, rfl, h₂, hbehind⟩ := feeds_finished_cons hrest hf (by simp)
    obtain ⟨rfl, -⟩ | ⟨rfl, -⟩ | ⟨rfl, -⟩ | ⟨rfl, houter, -⟩ := feed_joint_ok rfl h₂
    · exact absurd rfl hb
    · exact absurd rfl he
    · refine ⟨.group d, rest, by simp [Operand.signs], by rw [Operand.nesting]; omega, ?_⟩
      rw [← Except.ok.inj ((feed_closeGroup st l).symm.trans h₂), hv] at hbehind
      exact hbehind
    · cases houter
  termination_by (ts.length, 0)

/-- **A conjunction first.**  A run that begins before a conjunction takes all its operands,
and no further one follows. -/
theorem split_conjunction (ts : List TokenKind) (st s : State) (hs : st.stage = .operand)
    (hn : st.level.negations = 0) (hd : st.depth.toNat ≤ maxDepth) (h : feeds st ts = .ok s)
    (hf : s.Finished) :
    ∃ (c : Conjunction) (rest : List TokenKind), ts = c.signs ++ rest ∧
      st.depth.toNat + c.nesting ≤ maxDepth ∧ rest.head? ≠ some .both ∧
      feeds (c.trees.foldl State.complete st) rest = .ok s := by
  obtain ⟨o, rest, rfl, hnest, hrest⟩ := split_operand ts st s hs hd h hf
  have hlen := Operand.length_signs_pos o
  have hdepth : (st.complete o.tree).depth.toNat = st.depth.toNat := by
    rw [State.depth_complete hn]
  by_cases hboth : rest.head? = some .both
  · obtain ⟨rest, rfl⟩ : ∃ rest', rest = .both :: rest' := List.head?_eq_some_iff.mp hboth
    have hjoint : (st.complete o.tree).feed .both = .ok ((st.complete o.tree).goto .operand) :=
      rfl
    rw [feeds_cons _ hjoint] at hrest
    obtain ⟨c, rest', rfl, hnest', hb, hrest'⟩ :=
      split_conjunction rest _ s rfl rfl (by rw [State.depth_goto]; omega) hrest hf
    refine ⟨.both o c, rest', by simp [Conjunction.signs], ?_, hb, ?_⟩
    · rw [State.depth_goto] at hnest'
      rw [Conjunction.nesting]
      omega
    · have hc := c.trees_ne_nil
      rw [foldl_complete _ rfl _ hc] at hrest'
      rw [Conjunction.trees, List.foldl_cons, foldl_complete _ rfl _ hc]
      exact hrest'
  · exact ⟨.last o, rest, rfl, hnest, hboth, hrest⟩
  termination_by (ts.length, 1)

/-- **A disjunction first.**  A run that begins before a disjunction takes all its
conjunctions, and the level is then worth all of them. -/
theorem split_disjunction (ts : List TokenKind) (st s : State) (hs : st.stage = .operand)
    (hn : st.level.negations = 0) (ho : st.level.operands = []) (hd : st.depth.toNat ≤ maxDepth)
    (h : feeds st ts = .ok s) (hf : s.Finished) :
    ∃ (d : Disjunction) (l : Level) (rest : List TokenKind), ts = d.signs ++ rest ∧
      st.depth.toNat + d.nesting ≤ maxDepth ∧
      l.value = .joinAny (st.level.disjuncts.reverse ++ d.trees) ∧
      rest.head? ≠ some .both ∧ rest.head? ≠ some .either ∧
      feeds ⟨l, st.outer, .joint, st.depth⟩ rest = .ok s := by
  obtain ⟨c, rest, rfl, hnest, hb, hrest⟩ := split_conjunction ts st s hs hn hd h hf
  rw [foldl_complete st hn _ c.trees_ne_nil, ho, List.append_nil] at hrest
  by_cases heither : rest.head? = some .either
  · obtain ⟨rest, rfl⟩ : ∃ rest', rest = .either :: rest' := List.head?_eq_some_iff.mp heither
    have hjoint : State.feed ⟨{ st.level with operands := c.trees.reverse }, st.outer, .joint,
        st.depth⟩ .either = .ok ⟨{ disjuncts := .joinAll c.trees :: st.level.disjuncts }, st.outer,
          .operand, st.depth⟩ := by
      simp [State.feed, State.feedJoint, Level.split, hn]
    rw [feeds_cons _ hjoint] at hrest
    obtain ⟨d, l, rest', rfl, hnest', hv, hb, he, hrest'⟩ :=
      split_disjunction rest _ s rfl rfl rfl (by dsimp only; omega) hrest hf
    refine ⟨.either c d, l, rest', by simp [Disjunction.signs], ?_, ?_, hb, he, hrest'⟩
    · rw [Disjunction.nesting]
      dsimp only at hnest'
      omega
    · rw [hv, Disjunction.trees]
      simp
  · refine ⟨.last c, _, rest, rfl, hnest, ?_, hb, heither, hrest⟩
    simp [Level.value, Level.split, Disjunction.trees]
  termination_by (ts.length, 2)

end

/-! ## 6. Whole rules -/

/-- The parser starts outside of all levels, with nothing to take off the count. -/
theorem depth_start : (State.depth {}).toNat = 0 := rfl

/-- The signs of a derivation within the bound lead to the end of its rule, where nothing but the
rule is left. -/
theorem feeds_sentence (d : Sentence) (hd : d.condition.nesting ≤ maxDepth) :
    ∃ s, feeds {} (d.signs ++ [.finish]) = .ok s ∧ s.stage = .done d.condition.tree d.action := by
  obtain ⟨l, hl, hv⟩ := feeds_disjunction d.condition {} rfl rfl rfl
    (by rw [depth_start]; omega)
  have harrow : State.feed ⟨l, [], .joint, 0⟩ .arrow = .ok ⟨l, [], .action l.value, 0⟩ := rfl
  have hword : State.feed ⟨l, [], .action l.value, 0⟩ (.word d.action) =
      .ok ⟨l, [], .finish l.value d.action, 0⟩ := rfl
  have hfinish : State.feed ⟨l, [], .finish l.value d.action, 0⟩ .finish =
      .ok ⟨l, [], .done l.value d.action, 0⟩ := rfl
  refine ⟨⟨l, [], .done l.value d.action, 0⟩, ?_, ?_⟩
  · rw [Sentence.signs, List.append_assoc, feeds_append _ hl]
    exact (feeds_cons _ harrow).trans ((feeds_cons _ hword).trans (feeds_cons _ hfinish))
  · rw [hv]
    rfl

/-- A run from the start that finishes has taken the signs of a derivation within the
bound, and the end sign. -/
theorem split_sentence {ts : List TokenKind} {s : State} (h : feeds {} ts = .ok s)
    (hf : s.Finished) :
    ∃ d : Sentence, ts = d.signs ++ [.finish] ∧ d.condition.nesting ≤ maxDepth ∧
      s.stage = .done d.condition.tree d.action := by
  obtain ⟨d, l, rest, rfl, hn, hv, hb, he, h⟩ :=
    split_disjunction ts {} s rfl rfl rfl (by rw [depth_start]; omega) h hf
  obtain ⟨t, rest, st₁, rfl, h₁, h⟩ := feeds_finished_cons h hf (by simp)
  obtain ⟨rfl, -⟩ | ⟨rfl, -⟩ | ⟨rfl, around, outer, houter, -⟩ | ⟨rfl, -, rfl⟩ :=
    feed_joint_ok rfl h₁
  · exact absurd rfl hb
  · exact absurd rfl he
  · cases houter
  obtain ⟨t, rest, st₂, rfl, h₂, h⟩ := feeds_finished_cons h hf (by simp)
  obtain ⟨a, rfl, rfl⟩ := feed_action_ok rfl h₂
  obtain ⟨t, rest, st₃, rfl, h₃, h⟩ := feeds_finished_cons h hf (by simp)
  obtain ⟨rfl, rfl⟩ := feed_finish_ok rfl h₃
  cases rest with
  | cons t rest =>
    obtain ⟨st₄, h₄, -⟩ := feeds_cons_ok h
    exact absurd h₄ (feed_done_ne rfl)
  | nil =>
    obtain rfl := Except.ok.inj h
    refine ⟨⟨d, a⟩, by simp [Sentence.signs], ?_, ?_⟩
    · rw [depth_start, Nat.zero_add] at hn
      exact hn
    · rw [State.stage_goto, hv]
      rfl

end Turnstile.Parser

namespace Turnstile.Grammar

open Turnstile.Parser

/-- A text reads as a derivation: it is cut into the signs of the derivation, and the end
sign behind them. -/
def Reads (text : String) (d : Sentence) : Prop :=
  ∃ tokens, Scanner.scan text.toList = .ok tokens ∧
    tokens.map Token.kind = d.signs ++ [.finish]

/-- A text that reads as a derivation within the bound parses as its rule, under whatever identifier
it is given. -/
theorem Reads.parse {text : String} {d : Sentence} (h : Reads text d) (id : RuleId)
    (hd : d.condition.nesting ≤ maxDepth) : parse id text = .ok (d.rule id) := by
  obtain ⟨tokens, hscan, hkinds⟩ := h
  obtain ⟨s, hs, hstage⟩ := feeds_sentence d hd
  have htake := take_eq_feeds tokens {}
  rw [hkinds, hs] at htake
  simp only [Parser.parse, Workspace.parse, hscan, htake, Workspace.rule, hstage]
  rfl

/-- A text that parses reads as a derivation within the bound, and the rule is that of the
derivation. -/
theorem reads_of_parse {id : RuleId} {text : String} {r : Rule} (h : parse id text = .ok r) :
    ∃ d : Sentence, Reads text d ∧ d.condition.nesting ≤ maxDepth ∧ r = d.rule id := by
  simp only [Parser.parse, Workspace.parse] at h
  cases hscan : Scanner.scan text.toList with
  | error e =>
    rw [hscan] at h
    cases h
  | ok tokens =>
    have htake := take_eq_feeds tokens {}
    cases hs : feeds {} (tokens.map Token.kind) with
    | error e =>
      rw [hs] at htake
      obtain ⟨e, w, htake⟩ := htake
      simp only [hscan, htake] at h
      cases h
    | ok s =>
      rw [hs] at htake
      simp only [hscan, htake, Workspace.rule] at h
      split at h
      · next p a hstage =>
        obtain ⟨d, hd, hn, hdone⟩ := split_sentence hs ⟨p, a, hstage⟩
        obtain ⟨rfl, rfl⟩ := Stage.done.inj (hstage.symm.trans hdone)
        exact ⟨d, ⟨tokens, hscan, hd⟩, hn, (Except.ok.inj h).symm⟩
      · cases h

/-- **The parser accepts exactly its grammar, and builds the tree that the grammar
assigns.**  A text parses as a rule exactly when it reads as a derivation in which no sign
is enclosed by more than `maxDepth` operators `!` and groups, and the rule is that of the
derivation; signs have one derivation at most; and every other text is an error. -/
theorem parse_iff_reads (id : RuleId) (text : String) :
    (∀ r, parse id text = .ok r ↔
      ∃ d : Sentence, Reads text d ∧ d.condition.nesting ≤ maxDepth ∧ r = d.rule id) ∧
    (∀ d d' : Sentence, d.signs = d'.signs → d = d') ∧
    ((¬ ∃ d : Sentence, Reads text d ∧ d.condition.nesting ≤ maxDepth) →
      ∃ e, parse id text = .error e) := by
  refine ⟨?_, fun d d' => Sentence.signs_injective, ?_⟩
  · intro r
    constructor
    · exact reads_of_parse
    · rintro ⟨d, hd, hn, rfl⟩
      exact hd.parse id hn
  · intro h
    cases hparse : parse id text with
    | error e => exact ⟨e, rfl⟩
    | ok r =>
      obtain ⟨d, hd, hn, -⟩ := reads_of_parse hparse
      exact absurd ⟨d, hd, hn⟩ h

/-- The conjunction sign binds tighter than the other, and a group needs its closing parenthesis:
one text that is a rule and one that is not. -/
theorem parse_iff_reads_group :
    (∃ d : Sentence, Reads "Hits > 1 || IP in a && !(IP in b) => x" d ∧
      d.condition.nesting ≤ maxDepth ∧
      d.rule 1 = ⟨1, .any [.hitsAbove 1, .all [.addressListed "a", .not (.addressListed "b")]],
        "x"⟩) ∧
    (¬ ∃ d : Sentence, Reads "!(IP in b => x" d ∧ d.condition.nesting ≤ maxDepth) ∧
    ∃ e, parse 1 "!(IP in b => x" = .error e := by
  obtain ⟨d, hd, hn, hrule⟩ :=
    ((parse_iff_reads 1 "Hits > 1 || IP in a && !(IP in b) => x").1 _).1 rfl
  have hopen : ¬ ∃ d : Sentence, Reads "!(IP in b => x" d ∧ d.condition.nesting ≤ maxDepth := by
    rintro ⟨d, hd, hn⟩
    have hok := ((parse_iff_reads 1 "!(IP in b => x").1 _).2 ⟨d, hd, hn, rfl⟩
    have herror : parse 1 "!(IP in b => x" =
        .error ⟨.unexpected .arrow .close, ⟨10, 1, 11⟩⟩ := rfl
    rw [herror] at hok
    cases hok
  exact ⟨⟨d, hd, hn, hrule.symm⟩, hopen, (parse_iff_reads 1 "!(IP in b => x").2.2 hopen⟩

end Turnstile.Grammar
