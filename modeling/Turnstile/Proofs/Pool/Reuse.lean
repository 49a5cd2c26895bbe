/-
# Parsers that are used again

A workshop is a lobby with what is inside the parsers, used by callers of the pool and by calls of
the rule factory: whoever holds one may parse any text in it, and leaves in it what the last text
left.  A caller comes for a parser to keep, parses what it likes and gives the parser back when it
likes; or it comes to make one rule, which is three steps behind the grant: the text is parsed, the
parser goes back, the result goes out.  Anyone may do anything between two steps, and the next
holder gets a parser as it was left.

**Nothing of this shows.**  A text is parsed in any workspace as in a new one
(`Workspace.parse_eq`), since both of its parts are set anew first.  So whatever was done to a
parser before, each result is that of a new parser (`reuse_unobservable`).

**A call that makes a rule keeps no parser**, and never finds itself unable to go on.  It adds one
parser to those that are held and takes the same one away, whether the text is a rule or not.
-/
import Turnstile.Gate
import Turnstile.Proofs.Pool.Schedule

namespace Turnstile

open Turnstile.Parser (Workspace)

/-- What is left in a workspace does not matter, since a parse begins with a reset of everything
that it reads later. -/
theorem Parser.Workspace.parse_eq (w : Workspace) (id : RuleId) (text : String) :
    w.parse id text = Workspace.parse {} id text := rfl

theorem Parser.Workspace.parse_fst (w : Workspace) (id : RuleId) (text : String) :
    (w.parse id text).1 = Parser.parse id text :=
  congrArg Prod.fst (w.parse_eq id text)

/-- Something may well be left: two groups that are still open. -/
example : (Workspace.parse {} 1 "((IP").2.state.depth = 2 := rfl

/-! ## 1. What a grant lends -/

/-- What a pool lends with a step that grants a parser. -/
def Pool.lends? (p : Pool) : Lobby.Act → Option Workspace
  | .arrive => match p.arrive.1 with
    | .granted w => some w
    | .queued _ => none
  | .look _ | .expire _ => p.takeTurn.1
  | _ => none

/-- **A grant lends the parser that came back last**, with what is in it, or a new one if none is
idle. -/
theorem Lobby.Moves.lends {s s' : Lobby} {timed : Bool} {act : Lobby.Act} {serial : Nat}
    (h : Moves s timed act (.granted serial) s') :
    s.pool.lends? act = some (s.pool.idle.head?.getD {}) := by
  cases h with
  | borrow hw hi _ =>
    rw [Pool.lends?, Pool.arrive, hw, hi]
    rfl
  | make hw hi _ hc =>
    rw [Pool.lends?, Pool.arrive, hw, hi, if_pos hc]
    rfl
  | turn hact hw hi _ _ =>
    rcases hact with rfl | rfl
    · rw [Pool.lends?, Pool.takeTurn, hi]
      rfl
    · rw [Pool.lends?, Pool.takeTurn, hi]
      rfl

/-! ## 2. Workshops -/

/-- What a caller wants a parser for. -/
inductive Purpose where
  | keep
  /-- To make one rule. -/
  | rule (id : RuleId) (text : String)

/-- A parser that is held: what is in it, what for, and the rule or the error if it is made. -/
structure Loan where
  workspace : Workspace
  purpose : Purpose
  made : Option (Except ParseError Rule) := none

/-- A lobby with what is inside the parsers. -/
structure Workshop where
  lobby : Lobby
  /-- The loans, by the numbers of the parsers. -/
  loans : Nat → Loan
  /-- What the waiting callers want a parser for. -/
  orders : Ticket → Purpose

namespace Workshop

/-- What someone does. -/
inductive Act where
  | arrive (purpose : Purpose)
  | notify
  | look (ticket : Ticket)
  | expire (ticket : Ticket)
  /-- A caller that keeps a parser parses a text. -/
  | parse (serial : Nat) (id : RuleId) (text : String)
  /-- A caller that keeps a parser gives it back. -/
  | release (serial : Nat)
  /-- A call that makes a rule parses its text. -/
  | work (serial : Nat)
  /-- A call that has made a rule gives the parser back and ends. -/
  | finish (serial : Nat)

/-- What comes of it. -/
inductive Outcome where
  /-- What the pool answers. -/
  | pool (outcome : Lobby.Outcome)
  | parsed (result : Except ParseError Rule)
  | worked
  | made (result : Except ParseError Rule)

/-- A pool that nobody has used yet. -/
def start (capacity : Nat) : Workshop where
  lobby := .start capacity
  loans _ := ⟨{}, .keep, none⟩
  orders _ := .keep

variable (s : Workshop) (timed : Bool)

/-- Notes what is done with a parser. -/
def lend (serial : Nat) (loan : Loan) : Workshop :=
  { s with loans := fun n => if n = serial then loan else s.loans n }

/-- A step of the lobby, for a caller with a purpose. -/
def ask (purpose : Purpose) (act : Lobby.Act) : Option (Outcome × Workshop) :=
  (s.lobby.step timed act).map fun (outcome, lobby) =>
    (.pool outcome, match outcome, s.lobby.pool.lends? act with
      | .granted serial, some w => { s with lobby }.lend serial ⟨w, purpose, none⟩
      | .queued ticket, _ =>
        { s with lobby, orders := fun t => if t = ticket then purpose else s.orders t }
      | _, _ => { s with lobby })

/-- A parser goes back as it is. -/
def giveBack (serial : Nat) (outcome : Outcome) : Option (Outcome × Workshop) :=
  (s.lobby.step timed (.release serial (s.loans serial).workspace)).map fun (_, lobby) =>
    (outcome, { s with lobby })

/-- One step, if it can be taken. -/
def step : Act → Option (Outcome × Workshop)
  | .arrive purpose => s.ask timed purpose .arrive
  | .notify => s.ask timed .keep .notify
  | .look ticket => s.ask timed (s.orders ticket) (.look ticket)
  | .expire ticket => s.ask timed (s.orders ticket) (.expire ticket)
  | .parse serial id text => match (s.loans serial).purpose with
    | .keep =>
      if serial ∈ s.lobby.held then
        let parsed := (s.loans serial).workspace.parse id text
        some (.parsed parsed.1, s.lend serial { s.loans serial with workspace := parsed.2 })
      else none
    | .rule _ _ => none
  | .release serial => match (s.loans serial).purpose with
    | .keep => s.giveBack timed serial (.pool .done)
    | .rule _ _ => none
  | .work serial => match s.loans serial with
    | ⟨workspace, .rule id text, none⟩ =>
      if serial ∈ s.lobby.held then
        let parsed := workspace.parse id text
        some (.worked, s.lend serial ⟨parsed.2, .rule id text, some parsed.1⟩)
      else none
    | _ => none
  | .finish serial => match (s.loans serial).made with
    | some result => s.giveBack timed serial (.made result)
    | none => none

/-- What a caller wants that does something at the pool. -/
def wish? : Act → Option Purpose
  | .arrive purpose => some purpose
  | .look ticket | .expire ticket => some (s.orders ticket)
  | _ => none

/-- What steps in any order lead to. -/
inductive Reachable (capacity : Nat) (timed : Bool) : Workshop → Prop
  | start : Reachable capacity timed (start capacity)
  | step {s s' : Workshop} {act : Act} {outcome : Outcome} :
      Reachable capacity timed s → s.step timed act = some (outcome, s') →
      Reachable capacity timed s'

/-! ## 3. What a step can do -/

variable {s s' : Workshop} {timed : Bool}

/-- **What a step does.**  The lobby takes a step or stays.  A loan is new, and has no result; or it
keeps its purpose, and has the result that it had or the right one for its purpose. -/
structure Moves (timed : Bool) (s s' : Workshop) : Prop where
  lobby : s'.lobby = s.lobby ∨ ∃ act outcome, s.lobby.step timed act = some (outcome, s'.lobby)
  loans (n : Nat) :
    ((∃ act, s.lobby.step timed act = some (.granted n, s'.lobby)) ∧ (s'.loans n).made = none) ∨
    ((s'.loans n).purpose = (s.loans n).purpose ∧
      ((s'.loans n).made = (s.loans n).made ∨
        ∃ id text, (s.loans n).purpose = .rule id text ∧
          (s'.loans n).made = some (Parser.parse id text)))

theorem lend_same (s : Workshop) (serial : Nat) (loan : Loan) :
    (s.lend serial loan).loans serial = loan := if_pos rfl

theorem lend_other (s : Workshop) {serial n : Nat} (loan : Loan) (h : n ≠ serial) :
    (s.lend serial loan).loans n = s.loans n := if_neg h

/-- A caller that asks, and what it gets.  The loans of all others stay as they are, and so do their
orders. -/
theorem ask_cases {purpose : Purpose} {act : Lobby.Act} {outcome : Outcome}
    (h : s.ask timed purpose act = some (outcome, s')) :
    ∃ o, s.lobby.step timed act = some (o, s'.lobby) ∧ outcome = .pool o ∧
      (∀ n, s'.loans n = s.loans n ∨ (o = .granted n ∧ (s'.loans n).made = none)) ∧
      ∀ serial w, o = .granted serial → s.lobby.pool.lends? act = some w →
        s'.loans serial = ⟨w, purpose, none⟩ := by
  obtain ⟨⟨o, lobby⟩, hstep, h⟩ := Option.map_eq_some_iff.1 h
  dsimp only at h
  split at h
  · next serial w hlends =>
    cases h
    refine ⟨_, hstep, rfl, ?_, ?_⟩
    · intro n
      by_cases hn : n = serial
      · subst hn
        refine .inr ⟨rfl, ?_⟩
        rw [lend_same]
      · exact .inl (lend_other _ _ hn)
    · rintro _ w' ⟨⟩ hlends'
      rw [hlends, Option.some.injEq] at hlends'
      rw [← hlends']
      exact lend_same _ _ _
  · cases h
    exact ⟨_, hstep, rfl, fun _ => .inl rfl, fun _ _ hgranted => by cases hgranted⟩
  · next _ hgrant =>
    cases h
    refine ⟨_, hstep, rfl, fun _ => .inl rfl, ?_⟩
    intro serial w hgranted hlends
    exact (hgrant serial w hgranted hlends).elim

theorem giveBack_cases {serial : Nat} {result outcome : Outcome}
    (h : s.giveBack timed serial result = some (outcome, s')) :
    outcome = result ∧ serial ∈ s.lobby.held ∧
      s' = { s with lobby := s.lobby.giveBack serial (s.loans serial).workspace } := by
  obtain ⟨⟨o, lobby⟩, hstep, h⟩ := Option.map_eq_some_iff.1 h
  obtain ⟨hheld, hlobby⟩ := Option.ite_none_right_eq_some.1 hstep
  cases h
  cases hlobby
  exact ⟨rfl, hheld, rfl⟩

theorem giveBack_of_held {serial : Nat} (result : Outcome) (h : serial ∈ s.lobby.held) :
    s.giveBack timed serial result = some (result,
      { s with lobby := s.lobby.giveBack serial (s.loans serial).workspace }) := by
  rw [giveBack, Lobby.step, if_pos h]
  rfl

theorem parse_cases {serial : Nat} {id : RuleId} {text : String} {outcome : Outcome}
    (h : s.step timed (.parse serial id text) = some (outcome, s')) :
    outcome = .parsed (Parser.parse id text) ∧ serial ∈ s.lobby.held ∧
      s' = s.lend serial { s.loans serial with
        workspace := ((s.loans serial).workspace.parse id text).2 } := by
  rw [step] at h
  split at h
  · obtain ⟨hheld, h⟩ := Option.ite_none_right_eq_some.1 h
    cases h
    exact ⟨congrArg Outcome.parsed (Workspace.parse_fst _ id text), hheld, rfl⟩
  · cases h

theorem work_cases {serial : Nat} {outcome : Outcome}
    (h : s.step timed (.work serial) = some (outcome, s')) :
    outcome = .worked ∧ ∃ id text workspace,
      (s.loans serial).purpose = .rule id text ∧ serial ∈ s.lobby.held ∧
      s' = s.lend serial ⟨workspace, .rule id text, some (Parser.parse id text)⟩ := by
  rw [step] at h
  split at h
  · next workspace id text hloan =>
    obtain ⟨hheld, h⟩ := Option.ite_none_right_eq_some.1 h
    cases h
    refine ⟨rfl, id, text, (workspace.parse id text).2, by rw [hloan], hheld, ?_⟩
    rw [Workspace.parse_fst]
  · cases h

theorem finish_cases {serial : Nat} {outcome : Outcome}
    (h : s.step timed (.finish serial) = some (outcome, s')) :
    ∃ result, (s.loans serial).made = some result ∧ outcome = .made result ∧
      serial ∈ s.lobby.held ∧
      s' = { s with lobby := s.lobby.giveBack serial (s.loans serial).workspace } := by
  rw [step] at h
  split at h
  · next result hmade =>
    obtain ⟨houtcome, hheld, hs'⟩ := giveBack_cases h
    exact ⟨result, hmade, houtcome, hheld, hs'⟩
  · cases h

theorem ask_moves {purpose : Purpose} {act : Lobby.Act} {outcome : Outcome}
    (h : s.ask timed purpose act = some (outcome, s')) : Moves timed s s' := by
  obtain ⟨o, hstep, -, hloans, -⟩ := ask_cases h
  refine ⟨.inr ⟨act, o, hstep⟩, ?_⟩
  intro n
  rcases hloans n with hsame | ⟨rfl, hnone⟩
  · rw [hsame]
    exact .inr ⟨rfl, .inl rfl⟩
  · exact .inl ⟨⟨act, hstep⟩, hnone⟩

/-- A parser that goes back takes no part in the loans: its loan is left as it was, and counts for
nothing until it is lent again. -/
theorem giveBack_moves {serial : Nat} (h : serial ∈ s.lobby.held) (timed : Bool) :
    Moves timed s { s with lobby := s.lobby.giveBack serial (s.loans serial).workspace } := by
  refine ⟨.inr ⟨.release serial (s.loans serial).workspace, .done, if_pos h⟩, ?_⟩
  exact fun n => .inr ⟨rfl, .inl rfl⟩

theorem step_moves {act : Act} {outcome : Outcome}
    (h : s.step timed act = some (outcome, s')) : Moves timed s s' := by
  cases act with
  | arrive purpose => exact ask_moves h
  | notify => exact ask_moves h
  | look ticket => exact ask_moves h
  | expire ticket => exact ask_moves h
  | parse serial id text =>
    obtain ⟨-, -, rfl⟩ := parse_cases h
    refine ⟨.inl rfl, fun n => .inr ?_⟩
    by_cases hn : n = serial
    · rw [hn, lend_same]
      exact ⟨rfl, .inl rfl⟩
    · rw [lend_other _ _ hn]
      exact ⟨rfl, .inl rfl⟩
  | release serial =>
    rw [step] at h
    split at h
    · obtain ⟨-, hheld, rfl⟩ := giveBack_cases h
      exact giveBack_moves hheld timed
    · cases h
  | work serial =>
    obtain ⟨-, id, text, workspace, hpurpose, -, rfl⟩ := work_cases h
    refine ⟨.inl rfl, fun n => .inr ?_⟩
    by_cases hn : n = serial
    · rw [hn, lend_same, hpurpose]
      exact ⟨rfl, .inr ⟨id, text, rfl, rfl⟩⟩
    · rw [lend_other _ _ hn]
      exact ⟨rfl, .inl rfl⟩
  | finish serial =>
    obtain ⟨result, -, -, hheld, rfl⟩ := finish_cases h
    exact giveBack_moves hheld timed

/-! ## 4. Every workshop that can be reached -/

namespace Reachable

variable {capacity : Nat}

/-- What is inside the parsers makes no difference to the lobby, so all that is known of reachable
lobbies holds here. -/
theorem lobby (h : Reachable capacity timed s) : Lobby.Reachable capacity timed s.lobby := by
  induction h with
  | start => exact .start
  | step _ hstep ih =>
    rcases (step_moves hstep).lobby with hsame | ⟨act, outcome, hlobby⟩
    · rw [hsame]
      exact ih
    · exact ih.step hlobby

/-- **What is made is what a new parser makes** of the same text, for every loan of every workshop
that can be reached. -/
theorem made (h : Reachable capacity timed s) (n : Nat) {result : Except ParseError Rule}
    (hmade : (s.loans n).made = some result) :
    ∃ id text, (s.loans n).purpose = .rule id text ∧ result = Parser.parse id text := by
  induction h generalizing result with
  | start => cases hmade
  | step _ hstep ih =>
    rcases (step_moves hstep).loans n with ⟨-, hnone⟩ | ⟨hkept, hsame | ⟨id, text, hpurpose, hnew⟩⟩
    · rw [hnone] at hmade
      cases hmade
    · rw [hsame] at hmade
      rw [hkept]
      exact ih hmade
    · rw [hnew, Option.some.injEq] at hmade
      exact ⟨id, text, hkept.trans hpurpose, hmade.symm⟩

/-- **Nobody else changes what a parser is held for.**  The number of the parser is the holder's
alone as long as it is held. -/
theorem purpose_kept (h : Reachable capacity timed s) {act : Act} {outcome : Outcome}
    (hstep : s.step timed act = some (outcome, s')) {serial : Nat}
    (hheld : serial ∈ s.lobby.held) : (s'.loans serial).purpose = (s.loans serial).purpose := by
  have hsound := h.lobby.sound
  rcases (step_moves hstep).loans serial with ⟨⟨lact, hgrant⟩, -⟩ | ⟨hkept, -⟩
  · exact absurd hheld ((Lobby.step_moves hsound.stocked hgrant).granted hsound).1
  · exact hkept

end Reachable

/-- A caller that keeps a parser can parse in it, as often as it likes, and gets each time what a
new parser would say. -/
theorem parse_of_held {serial : Nat} (hkeep : (s.loans serial).purpose = .keep)
    (hheld : serial ∈ s.lobby.held) (id : RuleId) (text : String) :
    s.step timed (.parse serial id text) = some (.parsed (Parser.parse id text),
      s.lend serial { s.loans serial with
        workspace := ((s.loans serial).workspace.parse id text).2 }) := by
  rw [step, hkeep, ← Workspace.parse_fst (s.loans serial).workspace]
  exact if_pos hheld

/-- A call that has a parser can parse its text.  No other step has to come first, so such a call
does not wait twice. -/
theorem work_of_held {serial : Nat} {id : RuleId} {text : String} {workspace : Workspace}
    (hloan : s.loans serial = ⟨workspace, .rule id text, none⟩) (hheld : serial ∈ s.lobby.held) :
    s.step timed (.work serial) = some (.worked,
      s.lend serial ⟨(workspace.parse id text).2, .rule id text,
        some (Parser.parse id text)⟩) := by
  rw [step, hloan, ← workspace.parse_fst]
  exact if_pos hheld

/-- A call that has made its rule, or an error of it, can give its parser back.  An error is given
back as a rule is, so no parser is lost to it. -/
theorem finish_of_held {serial : Nat} {result : Except ParseError Rule}
    (hmade : (s.loans serial).made = some result) (hheld : serial ∈ s.lobby.held) :
    s.step timed (.finish serial) = some (.made result,
      { s with lobby := s.lobby.giveBack serial (s.loans serial).workspace }) := by
  rw [step, hmade]
  exact giveBack_of_held _ hheld

/-- **A call that makes a rule, from the grant to its end**: two steps, the second of which answers
with what a new parser makes of the text. -/
theorem errand {serial : Nat} {id : RuleId} {text : String} {workspace : Workspace}
    (hloan : s.loans serial = ⟨workspace, .rule id text, none⟩) (hheld : serial ∈ s.lobby.held) :
    ∃ s₁ s₂, s.step timed (.work serial) = some (.worked, s₁) ∧
      s₁.step timed (.finish serial) = some (.made (Parser.parse id text), s₂) ∧
      s₂.lobby = s.lobby.giveBack serial (workspace.parse id text).2 := by
  refine ⟨_, _, work_of_held hloan hheld, finish_of_held ?_ hheld, ?_⟩
  · rw [lend_same]
  · rw [lend_same]
    rfl

/-- A parser is granted to those only who ask for one, by coming, by looking or by giving up. -/
theorem ask_of_granted {act : Act} {serial : Nat}
    (h : s.step timed act = some (.pool (.granted serial), s')) :
    ∃ purpose lact, s.wish? act = some purpose ∧
      s.ask timed purpose lact = some (.pool (.granted serial), s') := by
  cases act with
  | arrive purpose => exact ⟨purpose, .arrive, rfl, h⟩
  | look ticket => exact ⟨s.orders ticket, .look ticket, rfl, h⟩
  | expire ticket => exact ⟨s.orders ticket, .expire ticket, rfl, h⟩
  | notify =>
    obtain ⟨o, hlobby, ho, -, -⟩ := ask_cases h
    obtain ⟨-, hnotify⟩ := Option.ite_none_right_eq_some.1 hlobby
    cases ho
    cases (Prod.mk.inj (Option.some.inj hnotify)).1
  | parse serial id text =>
    obtain ⟨houtcome, -, -⟩ := parse_cases h
    cases houtcome
  | release serial =>
    rw [step] at h
    split at h
    · obtain ⟨houtcome, -, -⟩ := giveBack_cases h
      cases houtcome
    · cases h
  | work serial =>
    obtain ⟨houtcome, -⟩ := work_cases h
    cases houtcome
  | finish serial =>
    obtain ⟨result, -, houtcome, -, -⟩ := finish_cases h
    cases houtcome

/-- **Whoever gets a parser** gets one that nobody holds, for what it came for.  The purpose of a
caller in line is that of its order. -/
theorem Reachable.granted {capacity : Nat} (h : Reachable capacity timed s) {act : Act}
    {serial : Nat} (hstep : s.step timed act = some (.pool (.granted serial), s')) :
    serial ∉ s.lobby.held ∧ s'.lobby.held = serial :: s.lobby.held ∧
      ∃ purpose, s.wish? act = some purpose ∧
        s'.loans serial = ⟨s.lobby.pool.idle.head?.getD {}, purpose, none⟩ := by
  have hsound := h.lobby.sound
  obtain ⟨purpose, lact, hwish, hask⟩ := ask_of_granted hstep
  obtain ⟨o, hlobby, ho, -, hloan⟩ := ask_cases hask
  cases ho
  have hmoves := Lobby.step_moves hsound.stocked hlobby
  obtain ⟨hfree, hheld⟩ := hmoves.granted hsound
  exact ⟨hfree, hheld, purpose, hwish, hloan serial _ rfl hmoves.lends⟩

end Workshop

/-! ## 5. Rules that are made at once -/

namespace Gate

variable {g g' : Gate} {w : Workspace}

theorem acquire_granted (h : g.acquire = (.ok w, g')) :
    ∃ pool, g.pool.arrive = (.granted w, pool) ∧ g' = { g with pool } := by
  unfold acquire at h
  split at h
  · next heq =>
    cases h
    exact ⟨_, heq, rfl⟩
  · split at h
    · cases h
    · cases h

/-- **A rule that gets a parser** is what a new parser makes of it, and there are as many parsers
out as before. -/
theorem newRule_granted (h : g.acquire = (.ok w, g')) (id : RuleId) (text : String) :
    (g.newRule id text).1 = (Parser.parse id text).mapError .parse ∧
    (g.newRule id text).2.pool = g'.pool.release (w.parse id text).2 ∧
    (g.newRule id text).2.pool.created + g.pool.idle.length =
      g.pool.created + (g.newRule id text).2.pool.idle.length := by
  have hpool : (g.newRule id text).2.pool = g'.pool.release (w.parse id text).2 := by
    rw [newRule, h]
    rfl
  refine ⟨?_, hpool, ?_⟩
  · rw [newRule, h, ← w.parse_fst]
  · rw [hpool]
    obtain ⟨pool, harrive, rfl⟩ := acquire_granted h
    rcases g.pool.arrive_cases with ⟨-, w', idle, hi, ha⟩ | ⟨-, hi, -, ha⟩ | ⟨-, ha⟩
    · rw [harrive] at ha
      cases ha
      rw [hi]
      rfl
    · rw [harrive] at ha
      cases ha
      rw [hi]
      rfl
    · rw [harrive] at ha
      cases ha

end Gate

theorem Lobby.enter_granted {s s' : Lobby} {serial : Nat} (h : s.enter = (.granted serial, s')) :
    ∃ w, s.pool.arrive = (.granted w, s'.pool) := by
  unfold enter at h
  split at h
  · next w pool harrive =>
    refine ⟨w, ?_⟩
    split at h
    · cases h
      exact harrive
    · cases h
      exact harrive
  · cases h

namespace Workshop

/-- **A gate makes a rule** as a call does that is not interrupted, so what is shown of interleaved
calls says what the engine does. -/
theorem errand_newRule {capacity : Nat} {timed : Bool} {s s₁ : Workshop} {serial : Nat}
    {id : RuleId} {text : String} (h : Reachable capacity timed s) (g : Gate)
    (hg : g.pool = s.lobby.pool)
    (hstep : s.step timed (.arrive (.rule id text)) = some (.pool (.granted serial), s₁)) :
    ∃ s₂ s₃, s₁.step timed (.work serial) = some (.worked, s₂) ∧
      s₂.step timed (.finish serial) = some (.made (Parser.parse id text), s₃) ∧
      (g.newRule id text).1 = (Parser.parse id text).mapError .parse ∧
      (g.newRule id text).2.pool = s₃.lobby.pool := by
  obtain ⟨-, hheld, purpose, hwish, hloan⟩ := h.granted hstep
  cases hwish
  have hmem : serial ∈ s₁.lobby.held := hheld ▸ List.mem_cons_self
  obtain ⟨s₂, s₃, hwork, hfinish, hlobby⟩ := errand hloan hmem
  obtain ⟨o, hstep', ho, -, -⟩ := ask_cases hstep
  cases ho
  obtain ⟨w, harrive⟩ := Lobby.enter_granted (Option.some.inj hstep')
  have hacquire : g.acquire = (.ok w, { g with pool := s₁.lobby.pool }) := by
    unfold Gate.acquire
    rw [hg, harrive]
  obtain ⟨hresult, hpool, -⟩ := Gate.newRule_granted hacquire id text
  refine ⟨s₂, s₃, hwork, hfinish, hresult, ?_⟩
  -- what is left in the parser does not depend on what was left in it before
  rw [hpool, hlobby, w.parse_eq, Workspace.parse_eq (s.lobby.pool.idle.head?.getD {})]
  rfl

/-! ## 6. Nothing of it shows -/

/-- **Using parsers again cannot be noticed.**  In every workshop that can be reached, whatever was
parsed before in any parser, with whatever errors, and whoever held it: a text that a holder parses
gives what a new parser gives, rule or error, and a holder can always parse; a call that makes a
rule has the rule or the error that a new parser gives, and gives back the one parser that it holds;
what that is for nobody changes, and it can always go on, to parse or to end; and from any grant to
its end without a break it leaves the held parsers as they were.  A gate that gets a parser makes
its rule likewise. -/
theorem reuse_unobservable :
    (∀ (capacity : Nat) (timed : Bool) (s : Workshop), Reachable capacity timed s →
      (∀ serial id text outcome s', s.step timed (.parse serial id text) = some (outcome, s') →
        outcome = .parsed (Parser.parse id text) ∧ s'.lobby = s.lobby) ∧
      (∀ serial ∈ s.lobby.held, (s.loans serial).purpose = .keep →
        ∀ id text, ∃ outcome s', s.step timed (.parse serial id text) = some (outcome, s')) ∧
      (∀ serial outcome s', s.step timed (.finish serial) = some (outcome, s') →
        serial ∈ s.lobby.held ∧ s'.lobby.held = s.lobby.held.erase serial ∧
        s'.lobby.stock = serial :: s.lobby.stock ∧
        ∃ id text, (s.loans serial).purpose = .rule id text ∧
          outcome = .made (Parser.parse id text)) ∧
      (∀ serial ∈ s.lobby.held, ∀ id text, (s.loans serial).purpose = .rule id text →
        (∃ s', s.step timed (.work serial) = some (.worked, s')) ∨
        ∃ s', s.step timed (.finish serial) = some (.made (Parser.parse id text), s')) ∧
      (∀ act outcome s', s.step timed act = some (outcome, s') → ∀ serial ∈ s.lobby.held,
        (s'.loans serial).purpose = (s.loans serial).purpose) ∧
      (∀ act serial s₁, s.step timed act = some (.pool (.granted serial), s₁) →
        ∀ id text, s.wish? act = some (.rule id text) →
        (s₁.loans serial).purpose = .rule id text ∧
        ∃ s₂ s₃, s₁.step timed (.work serial) = some (.worked, s₂) ∧
          s₂.step timed (.finish serial) = some (.made (Parser.parse id text), s₃) ∧
          s₃.lobby.held = s.lobby.held)) ∧
    (∀ (g g' : Gate) (w : Workspace) (id : RuleId) (text : String), g.acquire = (.ok w, g') →
      (g.newRule id text).1 = (Parser.parse id text).mapError .parse ∧
      (g.newRule id text).2.pool.created + g.pool.idle.length =
        g.pool.created + (g.newRule id text).2.pool.idle.length) := by
  constructor
  · intro capacity timed s h
    refine ⟨?_, ?_, ?_, ?_, ?_, ?_⟩
    · intro serial id text outcome s' hstep
      obtain ⟨houtcome, -, rfl⟩ := parse_cases hstep
      exact ⟨houtcome, rfl⟩
    · intro serial hheld hkeep id text
      exact ⟨_, _, parse_of_held hkeep hheld id text⟩
    · intro serial outcome s' hstep
      obtain ⟨result, hmade, houtcome, hheld, rfl⟩ := finish_cases hstep
      obtain ⟨id, text, hpurpose, hresult⟩ := h.made serial hmade
      exact ⟨hheld, rfl, rfl, id, text, hpurpose, hresult ▸ houtcome⟩
    · intro serial hheld id text hpurpose
      rcases hloan : s.loans serial with ⟨workspace, purpose, made⟩
      rw [hloan] at hpurpose
      change purpose = .rule id text at hpurpose
      subst hpurpose
      cases made with
      | none => exact .inl ⟨_, work_of_held hloan hheld⟩
      | some result =>
        have hmade : (s.loans serial).made = some result := by rw [hloan]
        obtain ⟨id', text', hpurpose, hresult⟩ := h.made serial hmade
        rw [hloan] at hpurpose
        cases hpurpose
        rw [hresult] at hmade
        exact .inr ⟨_, finish_of_held hmade hheld⟩
    · intro act outcome s' hstep serial hheld
      exact h.purpose_kept hstep hheld
    · intro act serial s₁ hstep id text hwish
      obtain ⟨-, hheld, purpose, hpurpose, hloan⟩ := h.granted hstep
      rw [hwish, Option.some.injEq] at hpurpose
      subst hpurpose
      have hmem : serial ∈ s₁.lobby.held := hheld ▸ List.mem_cons_self
      obtain ⟨s₂, s₃, hwork, hfinish, hlobby⟩ := errand hloan hmem
      refine ⟨by rw [hloan], s₂, s₃, hwork, hfinish, ?_⟩
      rw [hlobby, Lobby.giveBack, hheld]
      exact List.erase_cons_head _ _
  · intro g g' w id text h
    obtain ⟨hresult, -, hout⟩ := Gate.newRule_granted h id text
    exact ⟨hresult, hout⟩

/-- A rule that is made in a parser in which two groups were left open: the text before it ended
inside both, and nothing of that is seen. -/
theorem reuse_unobservable_leftover :
    (Gate.newRule {} 1 "((IP").2.pool.idle.map (·.state.depth) = [2] ∧
    ((Gate.newRule {} 1 "((IP").2.newRule 7 "Hits > 3 => reject").1 =
      .ok ⟨7, .hitsAbove 3, "reject"⟩ ∧
    ((Gate.newRule {} 1 "((IP").2.newRule 7 "Hits > 3 => reject").2.pool.idle.length = 1 := by
  have hacquire : (Gate.newRule {} 1 "((IP").2.acquire = (.ok _, _) := rfl
  obtain ⟨hresult, hout⟩ := reuse_unobservable.2 _ _ _ 7 "Hits > 3 => reject" hacquire
  refine ⟨rfl, ?_, ?_⟩
  · rw [hresult]
    rfl
  · have hcreated : ((Gate.newRule {} 1 "((IP").2.newRule 7 "Hits > 3 => reject").2.pool.created =
        1 := rfl
    rw [hcreated] at hout
    exact (Nat.add_left_cancel hout).symm

end Workshop

end Turnstile
