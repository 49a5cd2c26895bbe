/-
# Errors point at the first wrong sign

A parser may come to see that a text is wrong long after the place where it is.  This one does not:
what it has taken can always be completed to a rule, so the sign that it stops at is the first that
cannot be right, and the error is placed there.

**Nothing goes on behind a stop** (section 2).  The automaton is deterministic and has no sign to
take back, so a sign that it cannot take is wrong whatever follows.  That a literal has no value is
seen at the literal itself, and that a text nests too deep at the sign that opens one level too
many; each fault tells what is wrong with its sign (`ParseFault.Blames`).

**Every state but the last can be completed** (section 3), from the end backwards: at the end of an
operand by closing all groups, innermost first, which is the one induction here; and at any other
place by an operand that needs no further level, so the bound on levels is never in the way.

**Completions are texts** (section 4).  They consist of signs with spellings, and so do the signs
that were scanned; with a blank in front of each of them they are scanned as they are.
-/
import Turnstile.Proofs.Rule.Recognition
import Turnstile.Proofs.Rule.Separation

namespace Turnstile

open Turnstile.Grammar

/-! ## 1. Accepted signs -/

namespace Parser

/-- The parser takes all of the signs, and has then read a whole rule. -/
def Accepts (ks : List TokenKind) : Prop :=
  ∃ s, feeds {} ks = .ok s ∧ s.Finished

/-- The parser accepts the signs of derivations within the bound, with an end sign behind them.  So
acceptance can be shown without a run. -/
theorem accepts_iff {ks : List TokenKind} :
    Accepts ks ↔ ∃ d : Sentence, ks = d.signs ++ [.finish] ∧ d.condition.nesting ≤ maxDepth := by
  constructor
  · rintro ⟨s, hs, hfinished⟩
    obtain ⟨d, hsigns, hnest, -⟩ := split_sentence hs hfinished
    exact ⟨d, hsigns, hnest⟩
  · rintro ⟨d, rfl, hnest⟩
    obtain ⟨s, hs, hstage⟩ := feeds_sentence d hnest
    exact ⟨s, hs, _, _, hstage⟩

/-- A text parses if its signs are accepted.  Which rule comes of it depends on the spelling as
well, but whether one does, on the signs alone. -/
theorem exists_parse_iff {id : RuleId} {text : String} {tokens : List Token}
    (hscan : Scanner.scan text.toList = .ok tokens) :
    (∃ r, parse id text = .ok r) ↔ Accepts (tokens.map Token.kind) := by
  rw [accepts_iff]
  constructor
  · rintro ⟨r, hr⟩
    obtain ⟨d, ⟨tokens', hscan', hsigns⟩, hnest, -⟩ := reads_of_parse hr
    obtain rfl : tokens = tokens' := Except.ok.inj (hscan.symm.trans hscan')
    exact ⟨d, hsigns, hnest⟩
  · rintro ⟨d, hsigns, hnest⟩
    exact ⟨_, Reads.parse ⟨tokens, hscan, hsigns⟩ id hnest⟩

/-! ## 2. Where a run stops -/

/-- An end sign is taken at the end of a rule only, so no proper prefix of a rule is one. -/
theorem finished_of_feed_finish {st st' : State} (h : st.feed .finish = .ok st') :
    st'.Finished := by
  obtain ⟨level, outer, stage, depth⟩ := st
  cases stage with
  | finish p a =>
    obtain rfl := Except.ok.inj h
    exact ⟨p, a, rfl⟩
  | joint => cases outer <;> cases h
  | _ => cases h

/-- **A run stops at a sign that its state cannot take**, and the error is placed there.  All signs
before it have been taken. -/
theorem take_error {tokens : List Token} {st : State} {e : ParseError} {w : Workspace}
    (h : Workspace.take st tokens = (.error e, w)) :
    ∃ before t after st', tokens = before ++ t :: after ∧
      feeds st (before.map Token.kind) = .ok st' ∧ st'.feed t.kind = .error e.fault ∧
      e.position = t.position := by
  induction tokens generalizing st with
  | nil => cases h
  | cons t tokens ih =>
    rw [Workspace.take] at h
    split at h
    · next st₁ hfeed =>
      obtain ⟨before, t', after, st', rfl, hbefore, hstop⟩ := ih h
      refine ⟨t :: before, t', after, st', rfl, ?_, hstop⟩
      rw [List.map_cons, feeds_cons _ hfeed, hbefore]
    · next fault hfeed =>
      obtain rfl := Except.error.inj (Prod.mk.inj h).1
      exact ⟨[], t, tokens, st, rfl, rfl, hfeed, rfl⟩

/-- Signs behind which the next one is not taken begin no rule, since a run is a function of its
signs. -/
theorem not_accepts_of_feed_error {ks : List TokenKind} {k : TokenKind} {st : State}
    {fault : ParseFault} (h : feeds {} ks = .ok st) (hstop : st.feed k = .error fault)
    (rest : List TokenKind) : ¬Accepts (ks ++ k :: rest) := by
  rintro ⟨s, hs, -⟩
  rw [feeds_append _ h] at hs
  obtain ⟨st', hfeed, -⟩ := feeds_cons_ok hs
  rw [hstop] at hfeed
  cases hfeed

end Parser

/-- **What a fault has against its sign.**  The faults of the scanner are about no sign. -/
def ParseFault.Blames : ParseFault → TokenKind → Prop
  | unexpected found _, k => found = k
  | badAddress w, k => k = .word w ∧ Address.ofString? w = none
  | badBlock error, k => ∃ w, k = .word w ∧ Block.read w = .error error
  | badRegex source fault, k => k = .regex source ∧ Pattern.ofSource source = .error fault
  | badCount w, k => k = .word w ∧ Parser.State.count? w = none
  | tooDeep limit, k => limit = Parser.maxDepth ∧ (k = .bang ∨ k = .openGroup)
  | unexpectedChar _, _ | unterminated _, _ => False

namespace Parser

variable {st : State} {k : TokenKind} {fault : ParseFault}

theorem feedOperand_blames (h : st.feedOperand k = .error fault) : fault.Blames k := by
  unfold State.feedOperand at h
  split at h
  · cases h
  · split at h
    · cases h
      exact ⟨rfl, .inl rfl⟩
    · cases h
  · split at h
    · cases h
      exact ⟨rfl, .inr rfl⟩
    · cases h
  · cases h
    rfl

theorem feedJoint_blames (h : st.feedJoint k = .error fault) : fault.Blames k := by
  unfold State.feedJoint at h
  split at h
  all_goals cases h
  all_goals rfl

/-- **A fault says what is wrong with the sign that was not taken**: that something else was
expected, that its literal is bad, or that it goes too deep. -/
theorem feed_blames (h : st.feed k = .error fault) : fault.Blames k := by
  obtain ⟨level, outer, stage, depth⟩ := st
  cases stage with
  | operand => exact feedOperand_blames h
  | joint => exact feedJoint_blames h
  | address =>
    cases k with
    | word w =>
      simp only [State.feed] at h
      split at h
      · cases h
      · cases h
        rfl
    | equals | tilde => cases h
    | _ =>
      cases h
      rfl
  | addressIs =>
    cases k with
    | word w =>
      simp only [State.feed] at h
      split at h
      · cases h
      · next hnone =>
        cases h
        exact ⟨rfl, hnone⟩
    | _ =>
      cases h
      rfl
  | addressIn =>
    cases k with
    | word w =>
      simp only [State.feed] at h
      split at h
      · cases h
      · next error herror =>
        cases h
        exact ⟨w, rfl, herror⟩
    | _ =>
      cases h
      rfl
  | fieldMatches f =>
    cases k with
    | regex r =>
      simp only [State.feed] at h
      split at h
      · cases h
      · next error herror =>
        cases h
        exact ⟨rfl, herror⟩
    | _ =>
      cases h
      rfl
  | hitsAbove =>
    cases k with
    | word w =>
      simp only [State.feed] at h
      split at h
      · cases h
      · next hnone =>
        cases h
        exact ⟨rfl, hnone⟩
    | _ =>
      cases h
      rfl
  | _ =>
    -- the other stages take some signs whatever is in them, and no others
    cases k
    all_goals cases h
    all_goals rfl

/-! ## 3. Completions -/

namespace State

/-- Some signs with spellings lead to the end of a rule. -/
def Completable (st : State) : Prop :=
  ∃ ks, (∀ k ∈ ks, k.Spellable) ∧ ∃ s, feeds st (ks ++ [.finish]) = .ok s ∧ s.Finished

variable {level : Level} {outer : List Level} {depth : UInt64}

/-- A sign in front of what completes the state behind it.  Completions are built from the end of
the rule backwards by this. -/
theorem Completable.cons {st st' : State} (k : TokenKind) (hk : k.Spellable)
    (hfeed : st.feed k = .ok st') (h : st'.Completable) : st.Completable := by
  obtain ⟨ks, hks, s, hs, hfinished⟩ := h
  refine ⟨k :: ks, List.forall_mem_cons.2 ⟨hk, hks⟩, s, ?_, hfinished⟩
  rw [List.cons_append, feeds_cons _ hfeed, hs]

theorem completable_finish (p : Predicate) (a : String) :
    Completable ⟨level, outer, .finish p a, depth⟩ :=
  ⟨[], by simp, _, feeds_cons [] rfl, p, a, rfl⟩

theorem completable_action (p : Predicate) : Completable ⟨level, outer, .action p, depth⟩ :=
  .cons (.word "reject") (by decide) rfl (completable_finish p "reject")

/-- Behind an operand, by closing the groups from the innermost one on, and then an action. -/
theorem completable_joint (outer : List Level) (level : Level) (depth : UInt64) :
    Completable ⟨level, outer, .joint, depth⟩ := by
  induction outer generalizing level depth with
  | nil => exact .cons .arrow trivial rfl (completable_action level.value)
  | cons around outer ih =>
    exact .cons .closeGroup trivial rfl (ih (around.add level.value) _)

/-- **Every state before the end of a rule can be completed**, whatever is open.  No further group
is needed for it, so the bound on depth is no obstacle. -/
theorem completable_of_not_finished {st : State} (h : ¬st.Finished) : st.Completable := by
  obtain ⟨level, outer, stage, depth⟩ := st
  have hjoint := completable_joint outer
  have habove : Completable ⟨level, outer, .hitsAbove, depth⟩ :=
    .cons (.word "0") (by decide) rfl (hjoint _ _)
  have hhits : Completable ⟨level, outer, .hits, depth⟩ := .cons .greater trivial rfl habove
  have hlisted : Completable ⟨level, outer, .addressListed, depth⟩ :=
    .cons (.word "office") (by decide) rfl (hjoint _ _)
  have hfield : ∀ f, Completable ⟨level, outer, .fieldIs f, depth⟩ :=
    fun f => .cons (.string "") trivial rfl (hjoint _ _)
  cases stage with
  | operand => exact .cons (.word "Hits") (by decide) rfl hhits
  | address => exact .cons (.word "in") (by decide) rfl hlisted
  | addressIs => exact .cons (.word "::") (by decide) rfl (hjoint _ _)
  | addressIn => exact .cons (.word "::/0") (by decide) rfl (hjoint _ _)
  | addressListed => exact hlisted
  | field f => exact .cons .equals trivial rfl (hfield f)
  | fieldIs f => exact hfield f
  | fieldMatches f => exact .cons (.regex "") (by decide) rfl (hjoint _ _)
  | hits => exact hhits
  | hitsAbove => exact habove
  | joint => exact hjoint level depth
  | action p => exact completable_action p
  | finish p a => exact completable_finish p a
  | done p a => exact absurd ⟨p, a, rfl⟩ h

end State

end Parser

/-! ## 4. Texts -/

namespace Scanner

/-- The signs in front of some sign of a text have spellings, since the end sign, which has none, is
the last. -/
theorem spellable_of_scan {cs : List Char} {before after : List Token} {t : Token}
    (h : scan cs = .ok (before ++ t :: after)) : ∀ k ∈ before.map Token.kind, k.Spellable := by
  obtain ⟨ks, hks, hspell⟩ := scan_spellable h
  rw [List.map_append, List.map_cons] at hks
  -- the end sign is the last one, so `before` lies in front of it
  have hfront : before.map Token.kind ++ (t.kind :: after.map Token.kind).dropLast = ks := by
    rw [← List.dropLast_append_of_ne_nil (List.cons_ne_nil _ _), hks, List.dropLast_concat]
  intro k hk
  exact hspell k (hfront ▸ List.mem_append_left _ hk)

end Scanner

namespace Parser

open Turnstile.Scanner

variable {id : RuleId} {text : String} {tokens : List Token}

/-- A text whose signs are all taken is a rule, since the last of them is the end sign, which only
the end of a rule takes. -/
theorem accepts_of_feeds {s : State} (hscan : scan text.toList = .ok tokens)
    (h : feeds {} (tokens.map Token.kind) = .ok s) : Accepts (tokens.map Token.kind) := by
  refine ⟨s, h, ?_⟩
  obtain ⟨ks, hks, -⟩ := scan_spellable hscan
  rw [hks] at h
  obtain ⟨st, -, h⟩ := feeds_append_ok h
  obtain ⟨st', hfeed, hend⟩ := feeds_cons_ok h
  obtain rfl := Except.ok.inj hend
  exact finished_of_feed_finish hfeed

/-- A text that is scanned and does not parse has a sign that is not taken. -/
theorem exists_take_error (hscan : scan text.toList = .ok tokens)
    (hfails : ∀ r, parse id text ≠ .ok r) :
    ∃ e w, Workspace.take {} tokens = (.error e, w) ∧ parse id text = .error e := by
  have htake := take_eq_feeds tokens {}
  cases hs : feeds {} (tokens.map Token.kind) with
  | ok s =>
    obtain ⟨r, hr⟩ := (exists_parse_iff hscan).2 (accepts_of_feeds hscan hs)
    exact absurd hr (hfails r)
  | error fault =>
    rw [hs] at htake
    obtain ⟨e, w, htake⟩ := htake
    exact ⟨e, w, htake, by simp only [parse, Workspace.parse, hscan, htake]⟩

/-- **What has been taken begins some rule.** -/
theorem exists_text_of_feeds (id : RuleId) {before after : List Token} {t : Token} {st : State}
    (hscan : scan text.toList = .ok (before ++ t :: after))
    (h : feeds {} (before.map Token.kind) = .ok st) :
    ∃ (text' : String) (tokens' : List Token) (rest : List TokenKind) (r : Rule),
      scan text'.toList = .ok tokens' ∧
      tokens'.map Token.kind = before.map Token.kind ++ rest ∧ parse id text' = .ok r := by
  have hbefore := spellable_of_scan hscan
  have hopen : ¬st.Finished := by
    intro hfinished
    obtain ⟨d, hsigns, -⟩ := split_sentence h hfinished
    exact hbefore .finish (hsigns ▸ List.mem_append_right _ List.mem_cons_self)
  obtain ⟨ks, hks, s, hs, hfinished⟩ := State.completable_of_not_finished hopen
  obtain ⟨text', tokens', hscan', hsigns⟩ :=
    exists_scan (List.forall_mem_append.2 ⟨hbefore, hks⟩)
  rw [List.append_assoc] at hsigns
  have haccepts : Accepts (tokens'.map Token.kind) := by
    rw [hsigns]
    exact ⟨s, (feeds_append _ h).trans hs, hfinished⟩
  obtain ⟨r, hr⟩ := (exists_parse_iff hscan').2 haccepts
  exact ⟨text', tokens', _, r, hscan', hsigns, hr⟩

/-- **Errors point at the first sign that cannot be right.**  A text that is scanned parses exactly
if the parser accepts its signs.  If it does not parse, its error is placed at one of its signs, and
tells what is wrong with it.  The signs in front of that one begin the signs of a text that does
parse, and the parser accepts no signs that begin with them and that one. -/
theorem errors_point_at_first_wrong_sign :
    (∀ (id : RuleId) (text : String) (tokens : List Token), scan text.toList = .ok tokens →
      ((∃ r, parse id text = .ok r) ↔ Accepts (tokens.map Token.kind))) ∧
    (∀ (id : RuleId) (text : String) (tokens : List Token), scan text.toList = .ok tokens →
      (∀ r, parse id text ≠ .ok r) →
        ∃ e before t after, parse id text = .error e ∧ tokens = before ++ t :: after ∧
          e.position = t.position ∧ e.fault.Blames t.kind ∧
          (∃ (text' : String) (tokens' : List Token) (rest : List TokenKind) (r : Rule),
            scan text'.toList = .ok tokens' ∧
            tokens'.map Token.kind = before.map Token.kind ++ rest ∧ parse id text' = .ok r) ∧
          ∀ rest, ¬Accepts (before.map Token.kind ++ t.kind :: rest)) := by
  refine ⟨fun id text tokens => exists_parse_iff, ?_⟩
  intro id text tokens hscan hfails
  obtain ⟨e, w, htake, hparse⟩ := exists_take_error hscan hfails
  obtain ⟨before, t, after, st, rfl, hbefore, hstop, hposition⟩ := take_error htake
  exact ⟨e, before, t, after, hparse, rfl, hposition, feed_blames hstop,
    exists_text_of_feeds id hscan hbefore, not_accepts_of_feed_error hbefore hstop⟩

/-- An address that is none, inside a negated group: the error is placed at the address, though the
group is well closed and an action follows. -/
theorem errors_point_at_first_wrong_sign_address :
    ∃ (text : String) (tokens : List Token) (e : ParseError),
      text = "!(IP = 10.0.0.999 || Hits > 3) => reject" ∧ scan text.toList = .ok tokens ∧
      parse 1 text = .error e ∧ e.fault = .badAddress "10.0.0.999" ∧ e.position = ⟨7, 1, 8⟩ ∧
      ∃ before t after, tokens = before ++ t :: after ∧ e.position = t.position ∧
        t.kind = .word "10.0.0.999" ∧
        (∃ (text' : String) (tokens' : List Token) (rest : List TokenKind) (r : Rule),
          scan text'.toList = .ok tokens' ∧
          tokens'.map Token.kind = before.map Token.kind ++ rest ∧ parse 1 text' = .ok r) ∧
        ∀ rest, ¬Accepts (before.map Token.kind ++ t.kind :: rest) := by
  have hparse : parse 1 "!(IP = 10.0.0.999 || Hits > 3) => reject" =
      .error ⟨.badAddress "10.0.0.999", ⟨7, 1, 8⟩⟩ := rfl
  obtain ⟨tokens, hscan⟩ : ∃ tokens,
      scan "!(IP = 10.0.0.999 || Hits > 3) => reject".toList = .ok tokens := ⟨_, rfl⟩
  have hfails : ∀ r, parse 1 "!(IP = 10.0.0.999 || Hits > 3) => reject" ≠ .ok r := by
    intro r hr
    rw [hparse] at hr
    cases hr
  obtain ⟨e, before, t, after, herror, htokens, hposition, hblames, hbegins, hnone⟩ :=
    errors_point_at_first_wrong_sign.2 1 _ tokens hscan hfails
  obtain rfl := Except.error.inj (hparse.symm.trans herror)
  exact ⟨_, tokens, _, rfl, hscan, hparse, rfl, rfl, before, t, after, htokens, hposition,
    hblames.1, hbegins, hnone⟩

end Parser

end Turnstile
