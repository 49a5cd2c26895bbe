/-
# The descent and the automaton

Rules are read by `Parser.State.feed`, one sign at a time, and the grammar is written as a descent
of functions that call each other (`Parser.Descent`).  **Both give the same**: the same rule, or the
same error at the same place, and the same count of open signs (`Descent.parse_eq`).

What the calls that are open remember stands in the state of the automaton: the operands and
conjunctions that have been read, the groups around, and how many `!` wait for the next operand.  So
each function of the descent is compared with the automaton from any state in which it can be
called, whatever the calls around it have put there (`Meets`).  It either comes back with the
automaton in the state behind what was read, or both stop with one error.

`Meets.bind` composes two such parts, and a sign that is taken on both sides is `Meets.step`.  The
repetitions are one induction for both operators (`chain_meets`), and nesting is one on the calls
that are left (`negation_meets`).

The descent counts its calls and turns, and there is a result, so neither has run out: **no more
than `maxDepth + 1` calls of `negation` are open at a time**, and no repetition takes more turns
than there are signs.
-/
import Turnstile.Proofs.Rule.Recognition
import Turnstile.Proofs.Rule.Tiling
import Turnstile.Rule.Descent

namespace Turnstile.Parser

open Turnstile.Text

/-! ## 1. What is left of the signs -/

/-- The last of some signs is the end sign, and no other is. -/
def Closed (ts : List Token) : Prop :=
  ∃ body last, ts = body ++ [last] ∧ last.kind = .finish ∧ ∀ t ∈ body, t.kind ≠ .finish

theorem Closed.exists_cons {ts : List Token} (h : Closed ts) : ∃ t rest, ts = t :: rest := by
  obtain ⟨body, last, rfl, -, -⟩ := h
  exact List.exists_cons_of_ne_nil (List.concat_ne_nil last body)

/-- Behind any other sign the end sign is still to come, so the cursor may move on without leaving
the text. -/
theorem Closed.tail {t : Token} {ts : List Token} (h : Closed (t :: ts)) (ht : t.kind ≠ .finish) :
    Closed ts := by
  obtain ⟨body, last, hts, hlast, hbody⟩ := h
  cases body with
  | nil =>
    obtain ⟨rfl, -⟩ := List.cons.inj hts
    exact absurd hlast ht
  | cons u body =>
    obtain ⟨-, rfl⟩ := List.cons.inj hts
    exact ⟨body, last, rfl, hlast, fun v hv => hbody v (List.mem_cons_of_mem u hv)⟩

/-- Behind the end sign there is none, since a text has only one and it is the last. -/
theorem Closed.eq_nil {t : Token} {ts : List Token} (h : Closed (t :: ts)) (ht : t.kind = .finish) :
    ts = [] := by
  obtain ⟨body, last, hts, -, hbody⟩ := h
  cases body with
  | nil => exact (List.cons.inj hts).2
  | cons u body =>
    obtain ⟨rfl, -⟩ := List.cons.inj hts
    exact absurd ht (hbody _ List.mem_cons_self)

/-- The signs of a text are closed, because the scanner puts the end sign behind them and nowhere
else. -/
theorem closed_of_scan {cs : List Char} {tokens : List Token} (h : Scanner.scan cs = .ok tokens) :
    Closed tokens := by
  obtain ⟨signs, rfl, hlaid⟩ := Scanner.scan_laid h
  refine ⟨signs, _, rfl, rfl, fun t ht e => ?_⟩
  exact (e ▸ hlaid.spellable t ht : TokenKind.Spellable .finish)

namespace Cursor

/-- The signs that have not been taken. -/
def rest (c : Cursor) : List Token :=
  c.tokens.drop c.taken

variable {c : Cursor} {t : Token} {ts : List Token}

theorem getElem?_of_rest (h : c.rest = t :: ts) : c.tokens[c.taken]? = some t := by
  have hhead := congrArg List.head? h
  rwa [rest, List.head?_drop] at hhead

theorem kind_of_rest (h : c.rest = t :: ts) : c.kind = t.kind := by
  rw [kind, getElem?_of_rest h]

theorem position_of_rest (h : c.rest = t :: ts) : c.position = t.position := by
  rw [position, getElem?_of_rest h]
  rfl

theorem rest_advance (h : c.rest = t :: ts) : c.advance.rest = ts := by
  have hlt : c.taken < c.tokens.length := by
    obtain ⟨hlt, -⟩ := List.getElem?_eq_some_iff.1 (getElem?_of_rest h)
    exact hlt
  rw [advance, if_pos hlt]
  have htail := congrArg List.tail h
  rwa [rest, List.tail_drop] at htail

theorem depth_advance (c : Cursor) : c.advance.depth = c.depth := by
  unfold advance
  split <;> rfl

end Cursor

namespace Descent

variable {α β : Type} {st st' : State} {c c' : Cursor}

/-- The cursor and the automaton are at one place: signs are left, up to the end sign, and the
counts of open signs are the same. -/
structure At (c : Cursor) (st : State) : Prop where
  closed : Closed c.rest
  depth : c.depth = st.depth

namespace At

/-- One sign taken on both sides: the cursor goes on by one, and the automaton to the state behind
the sign. -/
theorem advance (h : At c st) (hk : c.kind ≠ .finish) (hdepth : st'.depth = st.depth) :
    At c.advance st' := by
  obtain ⟨t, ts, hrest⟩ := h.closed.exists_cons
  rw [c.kind_of_rest hrest] at hk
  refine ⟨?_, by rw [c.depth_advance, h.depth, hdepth]⟩
  rw [c.rest_advance hrest]
  exact (hrest ▸ h.closed).tail hk

end At

/-! ## 2. Parts of a descent -/

/-- **A part of the descent follows the automaton** from a state: it comes back with the automaton
in a state for the rest, or both end in one error with the same count.  It does not run out. -/
inductive Meets (c : Cursor) (st : State) (Q : α → Cursor → State → Prop) :
    Option (Except ParseError α × Cursor) → Prop
  | ok {a : α} {c' : Cursor} {st' : State} (closed : Closed c'.rest)
      (le : c'.rest.length ≤ c.rest.length)
      (run : Workspace.take st c.rest = Workspace.take st' c'.rest) (post : Q a c' st') :
      Meets c st Q (some (.ok a, c'))
  | error {e : ParseError} {c' : Cursor} {w : Workspace}
      (run : Workspace.take st c.rest = (.error e, w)) (depth : w.state.depth = c'.depth) :
      Meets c st Q (some (.error e, c'))

/-- One computation behind another, by what the first comes to.  No bound reached, a value and an
error are the three outcomes. -/
theorem bind_run (x : Descent α) (f : α → Descent β) (c : Cursor) : (x >>= f) c = match x c with
    | none => none
    | some (.ok a, c') => f a c'
    | some (.error e, c') => some (.error e, c') := by
  change (x c).bind _ = _
  rcases x c with _ | ⟨_ | a, c'⟩ <;> rfl

namespace Meets

variable {Q : α → Cursor → State → Prop} {Q' : β → Cursor → State → Prop}

/-- What follows behind a sign that both take, follows in front of it.  All lemmas that take a sign
are applications of this one. -/
theorem step {out : Option (Except ParseError α × Cursor)} (hc : Closed c.rest)
    (hfeed : st.feed c.kind = .ok st') (h : Meets c.advance st' Q out) : Meets c st Q out := by
  obtain ⟨t, ts, hrest⟩ := hc.exists_cons
  have hrun : Workspace.take st c.rest = Workspace.take st' c.advance.rest := by
    rw [c.kind_of_rest hrest] at hfeed
    rw [c.rest_advance hrest, hrest, Workspace.take, hfeed]
  have hlength : c.advance.rest.length ≤ c.rest.length := by
    rw [c.rest_advance hrest, hrest]
    exact Nat.le_succ _
  cases h with
  | ok closed le run post => exact .ok closed (le.trans hlength) (hrun.trans run) post
  | error run depth => exact .error (hrun.trans run) depth

/-- A sign that the automaton does not take is the error of both, at the position of that sign. -/
theorem fault {f : ParseFault} (h : At c st) (hfeed : st.feed c.kind = .error f)
    (hdepth : c'.depth = c.depth) :
    Meets c st Q (some (.error ⟨f, c.position⟩, c')) := by
  obtain ⟨t, ts, hrest⟩ := h.closed.exists_cons
  refine .error (w := ⟨t :: ts, st⟩) ?_ (by rw [hdepth, h.depth])
  rw [c.kind_of_rest hrest] at hfeed
  rw [c.position_of_rest hrest, hrest, Workspace.take, hfeed]

/-- What is known of the result may be less, which fits a part of the descent to the place where it
is used. -/
theorem mono {R : α → Cursor → State → Prop} {out : Option (Except ParseError α × Cursor)}
    (h : Meets c st Q out) (hpost : ∀ a c' st', Q a c' st' → R a c' st') : Meets c st R out := by
  cases h with
  | ok closed le run post => exact .ok closed le run (hpost _ _ _ post)
  | error run depth => exact .error run depth

/-- One part behind another.  The rest never grows, which is what lets the bound on turns go
along. -/
theorem bind {x : Descent α} {f : α → Descent β} (hx : Meets c st Q (x c))
    (hf : ∀ a c' st', Closed c'.rest → c'.rest.length ≤ c.rest.length → Q a c' st' →
      Meets c' st' Q' (f a c')) : Meets c st Q' ((x >>= f) c) := by
  rw [bind_run]
  generalize x c = out at hx
  cases hx with
  | error run depth => exact .error run depth
  | @ok a c' st' closed le run post =>
    have hrest := hf a c' st' closed le post
    simp only
    generalize f a c' = out' at hrest
    cases hrest with
    | ok closed' le' run' post' => exact .ok closed' (le'.trans le) (run.trans run') post'
    | error run' depth' => exact .error (run.trans run') depth'

/-- A part that ends with a result of its own, for which no more signs are taken. -/
theorem map {x : Descent α} {f : α → β} (hx : Meets c st Q (x c))
    (hf : ∀ a c' st', Q a c' st' → Q' (f a) c' st') :
    Meets c st Q' ((x >>= fun a => pure (f a)) c) :=
  hx.bind fun a c' st' closed _ post => .ok closed (Nat.le_refl _) rfl (hf a c' st' post)

end Meets

/-! ## 3. Single signs -/

section Signs

variable {Q : α → Cursor → State → Prop}

/-- A sign that both take, and what is behind it.  The descent has looked at the sign already, and
only drops it. -/
theorem skip_meets {x : Descent α} (h : At c st) (hk : c.kind ≠ .finish)
    (hfeed : st.feed c.kind = .ok st') (hdepth : st'.depth = st.depth)
    (hx : At c.advance st' → Meets c.advance st' Q (x c.advance)) :
    Meets c st Q ((skip >>= fun _ => x) c) :=
  .step h.closed hfeed (hx (h.advance hk hdepth))

theorem unexpected_meets {expected : Expectation} (h : At c st)
    (hfeed : st.feed c.kind = .error (.unexpected c.kind expected)) :
    Meets c st Q (unexpected expected c) :=
  .fault h hfeed rfl

variable {text? : TokenKind → Option String} {expected : Expectation}
  {read : String → Except ParseFault α}

/-- What a literal comes to, by the sign under the cursor: its value, the error of its reader, or
the error that another sign was expected. -/
theorem literal_run (c : Cursor) : literal text? expected read c = match text? c.kind with
    | some text => match read text with
      | .ok a => some (.ok a, c.advance)
      | .error fault => some (.error ⟨fault, c.position⟩, c.advance)
    | none => some (.error ⟨.unexpected c.kind expected, c.position⟩, c) := by
  change (match text? c.kind with
    | some text => (do
      skip
      match read text with
      | .ok a => return a
      | .error fault => throw (ParseError.mk fault c.position) : Descent α)
    | none => unexpected expected) c = _
  cases text? c.kind with
  | none => rfl
  | some text => cases hread : read text <;> simp only [hread] <;> rfl

/-- **A literal is read on both sides alike**, errors included: the reader of the text is the same
function, and both place its error at the literal. -/
theorem literal_meets (next : α → State) (h : At c st) (hfinish : text? .finish = none)
    (hfeed : st.feed c.kind = match text? c.kind with
      | some text => (read text).map next
      | none => .error (.unexpected c.kind expected)) :
    Meets c st (fun a c' st' => c'.depth = st.depth ∧ st' = next a)
      (literal text? expected read c) := by
  rw [literal_run]
  cases htext : text? c.kind with
  | none =>
    rw [htext] at hfeed
    exact .fault h hfeed rfl
  | some text =>
    have hk : c.kind ≠ .finish := by
      intro hk
      rw [hk, hfinish] at htext
      cases htext
    have hnext : At c.advance st := h.advance hk rfl
    simp only [htext] at hfeed ⊢
    cases hread : read text with
    | error fault =>
      rw [hread] at hfeed
      exact .fault h hfeed c.depth_advance
    | ok a =>
      rw [hread] at hfeed
      exact .step h.closed hfeed (.ok hnext.closed (Nat.le_refl _) rfl ⟨hnext.depth, rfl⟩)

/-- To look at the next sign leaves it there.  The sign is a value from then on, so case splits on
it need no cursor. -/
theorem peek_run (f : TokenKind → Descent α) (c : Cursor) : (peek >>= f) c = f c.kind c := rfl

/-- What one certain sign comes to: the cursor behind it, or an error that names what was expected
and leaves the cursor in front. -/
theorem expect_run (kind : TokenKind) (expected : Expectation) (c : Cursor) :
    expect kind expected c = if c.kind = kind then some (.ok (), c.advance)
      else some (.error ⟨.unexpected c.kind expected, c.position⟩, c) := by
  change (if c.kind = kind then skip else unexpected expected : Descent Unit) c = _
  split <;> rfl

/-- One certain sign, which the automaton takes as well; on any other, both give the same error. -/
theorem expect_meets {kind : TokenKind} (h : At c st) (hkind : kind ≠ .finish)
    (htake : c.kind = kind → st.feed c.kind = .ok st')
    (hother : c.kind ≠ kind → st.feed c.kind = .error (.unexpected c.kind expected)) :
    Meets c st (fun _ c' s => c'.depth = st.depth ∧ s = st') (expect kind expected c) := by
  rw [expect_run]
  by_cases hk : c.kind = kind
  · rw [if_pos hk]
    have hnext : At c.advance st := h.advance (hk ▸ hkind) rfl
    exact .step h.closed (htake hk) (.ok hnext.closed (Nat.le_refl _) rfl ⟨hnext.depth, rfl⟩)
  · rw [if_neg hk]
    exact .fault h (hother hk) rfl

end Signs

/-! ## 4. Predicates -/

/-- The automaton has completed an operand, and with it the negations in front.  The descent has
still to come back from these. -/
def Completes (st : State) (p : Predicate) (c : Cursor) (st' : State) : Prop :=
  c.depth = st.depth ∧ st' = st.complete p

/-- The rest of a test: its operator, and the literal behind that.  All tests of one field have this
form, with their own operator and reader. -/
theorem test_meets {text? : TokenKind → Option String} {expected : Expectation}
    {read : String → Except ParseFault α} {leaf : α → Predicate} (stage : Stage) (h : At c st)
    (hk : c.kind ≠ .finish) (hfeed : st.feed c.kind = .ok (st.goto stage))
    (hfinish : text? .finish = none)
    (hliteral : ∀ k, (st.goto stage).feed k = match text? k with
      | some text => (read text).map fun a => st.complete (leaf a)
      | none => .error (.unexpected k expected)) :
    Meets c st (Completes st)
      ((do skip; return leaf (← literal text? expected read) : Descent Predicate) c) := by
  refine skip_meets h hk hfeed rfl fun hnext => ?_
  refine (literal_meets (fun a => st.complete (leaf a)) hnext hfinish (hliteral _)).map ?_
  rintro a c' st' ⟨hdepth, rfl⟩
  exact ⟨hdepth, rfl⟩

theorem fieldTest_meets {f : Field} (h : At c st) (hstage : st.stage = .field f) :
    Meets c st (Completes st) (fieldTest f c) := by
  obtain ⟨level, outer, stage, depth⟩ := st
  obtain rfl : stage = .field f := hstage
  rw [fieldTest, peek_run]
  cases hk : c.kind with
  | equals =>
    refine test_meets (.fieldIs f) h (by simp [hk]) (by rw [hk]; rfl) rfl fun k => ?_
    cases k <;> rfl
  | tilde =>
    refine test_meets (.fieldMatches f) h (by simp [hk]) (by rw [hk]; rfl) rfl fun k => ?_
    cases k with
    | regex source =>
      simp only [State.feed, State.goto, regex?, readPattern]
      cases Pattern.ofSource source <;> rfl
    | _ => rfl
  | _ => exact unexpected_meets h (by rw [hk]; rfl)

theorem addressTest_meets (h : At c st) (hstage : st.stage = .address) :
    Meets c st (Completes st) (addressTest c) := by
  obtain ⟨level, outer, stage, depth⟩ := st
  obtain rfl : stage = .address := hstage
  rw [addressTest, peek_run]
  cases hk : c.kind with
  | equals =>
    refine test_meets .addressIs h (by simp [hk]) (by rw [hk]; rfl) rfl fun k => ?_
    cases k with
    | word w =>
      simp only [State.feed, State.goto, word?, readAddress]
      cases Address.ofString? w <;> rfl
    | _ => rfl
  | tilde =>
    refine test_meets .addressIn h (by simp [hk]) (by rw [hk]; rfl) rfl fun k => ?_
    cases k with
    | word w =>
      simp only [State.feed, State.goto, word?, readBlock]
      cases Block.read w <;> rfl
    | _ => rfl
  | word w =>
    by_cases hw : w = "in"
    · simp only [if_pos hw]
      refine test_meets .addressListed h (by simp [hk]) ?_ rfl fun k => ?_
      · simp only [hk, State.feed, if_pos hw]
      · cases k <;> rfl
    · simp only [if_neg hw]
      refine unexpected_meets h ?_
      simp only [hk, State.feed, if_neg hw]
  | _ => exact unexpected_meets h (by rw [hk]; rfl)

theorem hitTest_meets (h : At c st) (hstage : st.stage = .hits) :
    Meets c st (Completes st) (hitTest c) := by
  obtain ⟨level, outer, stage, depth⟩ := st
  obtain rfl : stage = .hits := hstage
  have htake : c.kind = .greater →
      State.feed ⟨level, outer, .hits, depth⟩ c.kind = .ok ⟨level, outer, .hitsAbove, depth⟩ := by
    intro hk
    rw [hk]
    rfl
  have hother : c.kind ≠ .greater →
      State.feed ⟨level, outer, .hits, depth⟩ c.kind = .error (.unexpected c.kind .greater) := by
    intro hk
    cases hkind : c.kind with
    | greater => exact absurd hkind hk
    | _ => rfl
  refine (expect_meets h (by simp) htake hother).bind ?_
  rintro - c' st' closed - ⟨hdepth, rfl⟩
  have hat : At c' ⟨level, outer, .hitsAbove, depth⟩ := ⟨closed, hdepth⟩
  let next : UInt64 → State := fun n =>
    State.complete ⟨level, outer, .hitsAbove, depth⟩ (.hitsAbove n)
  refine (literal_meets next hat rfl ?_).map ?_
  · cases c'.kind with
    | word w =>
      simp only [State.feed, word?, readCount]
      cases State.count? w <;> rfl
    | _ => rfl
  · rintro n c'' st'' ⟨hdepth', rfl⟩
    exact ⟨hdepth', rfl⟩

/-- **A predicate is read on both sides alike**, where no operand is entered.  Negations and groups
are excluded, since these go down in the descent and need the bound. -/
theorem predicate_meets (h : At c st) (hstage : st.stage = .operand) (hbang : c.kind ≠ .bang)
    (hopen : c.kind ≠ .openGroup) : Meets c st (Completes st) (predicate c) := by
  have hsubject : Meets c st (fun w c' st' => c'.depth = st.depth ∧ st' = st.goto (State.subject w))
      (word .predicate c) := by
    refine literal_meets (fun w => st.goto (State.subject w)) h rfl ?_
    cases hk : c.kind with
    | bang => exact absurd hk hbang
    | openGroup => exact absurd hk hopen
    | _ => simp only [State.feed, hstage]; rfl
  refine hsubject.bind ?_
  rintro w c' st' closed - ⟨hdepth, rfl⟩
  have hat : At c' (st.goto (State.subject w)) := ⟨closed, hdepth⟩
  unfold State.subject at hat ⊢
  by_cases hip : w = "IP"
  · simp only [if_pos hip] at hat ⊢
    exact addressTest_meets hat rfl
  by_cases hhost : w = "Host"
  · simp only [if_neg hip, if_pos hhost] at hat ⊢
    exact fieldTest_meets hat rfl
  by_cases hhits : w = "Hits"
  · simp only [if_neg hip, if_neg hhost, if_pos hhits] at hat ⊢
    exact hitTest_meets hat rfl
  · simp only [if_neg hip, if_neg hhost, if_neg hhits] at hat ⊢
    exact fieldTest_meets hat rfl

/-! ## 5. Repetitions -/

/-- Items with a sign between them, as the automaton comes by them. -/
inductive Chained (sign : TokenKind) (Item : State → α → State → Prop) :
    State → List α → State → Prop
  | last {st st' : State} {a : α} (item : Item st a st') : Chained sign Item st [a] st'
  | more {st st' next st'' : State} {a : α} {rest : List α} (item : Item st a st')
    (feed : st'.feed sign = .ok next) (chained : Chained sign Item next rest st'') :
    Chained sign Item st (a :: rest) st''

/-- **A repetition of items that follow the automaton follows it.**  Each turn takes a sign at
least, so as many turns are enough as there are signs.  `End` is what is known of the cursor behind
an item. -/
theorem chain_meets {sign : TokenKind} {item : Descent α} (Item : State → α → State → Prop)
    (Start : State → Prop) (End : Cursor → Prop) (most : Nat) (hsign : sign ≠ .finish)
    (hitem : ∀ c st, At c st → c.rest.length ≤ most → Start st →
      Meets c st (fun a c' st' => c'.depth = st'.depth ∧ Item st a st' ∧ End c') (item c))
    (hnext : ∀ st a st', Start st → Item st a st' →
      ∃ next, st'.feed sign = .ok next ∧ next.depth = st'.depth ∧ Start next) :
    ∀ (turns : Nat) {c : Cursor} {st : State}, At c st → Start st → c.rest.length ≤ turns →
      c.rest.length ≤ most →
      Meets c st (fun as c' st' => c'.depth = st'.depth ∧ Chained sign Item st as st' ∧
        c'.kind ≠ sign ∧ End c') (chain sign item turns c) := by
  intro turns
  induction turns with
  | zero =>
    intro c st h _ hturns _
    obtain ⟨t, ts, hrest⟩ := h.closed.exists_cons
    rw [hrest] at hturns
    exact absurd hturns (Nat.not_succ_le_zero _)
  | succ turns ih =>
    intro c st h hstart hturns hmost
    refine (hitem c st h hmost hstart).bind ?_
    rintro a c' st' closed hle ⟨hdepth, hdone, hend⟩
    have hat : At c' st' := ⟨closed, hdepth⟩
    change Meets c' st' _ ((if c'.kind = sign then (do
        skip
        let rest ← chain sign item turns
        return a :: rest)
      else return [a] : Descent (List α)) c')
    by_cases hk : c'.kind = sign
    · rw [if_pos hk]
      obtain ⟨next, hfeed, hsame, hagain⟩ := hnext st a st' hstart hdone
      refine skip_meets hat (hk ▸ hsign) (hk ▸ hfeed) hsame fun hat' => ?_
      -- the sign that was taken is the one turn less
      obtain ⟨t, ts, hrest⟩ := closed.exists_cons
      have hshort : c'.advance.rest.length + 1 ≤ c.rest.length := by
        rw [c'.rest_advance hrest]
        rwa [hrest, List.length_cons] at hle
      refine (ih hat' hagain (by omega) (by omega)).map ?_
      rintro rest c'' st'' ⟨hdepth', hchained, hstop, hend'⟩
      exact ⟨hdepth', .more hdone hfeed hchained, hstop, hend'⟩
    · rw [if_neg hk]
      exact .ok closed (Nat.le_refl _) rfl ⟨hdepth, .last hdone, hk, hend⟩

/-- An operand without negations in front is added to its level as it is, which is all the automaton
does then. -/
theorem complete_plain (hn : st.level.negations = 0) (p : Predicate) :
    st.complete p = ⟨{ st.level with operands := p :: st.level.operands }, st.outer, .joint,
      st.depth⟩ := by
  simp [State.complete, Level.add, hn, Predicate.negated, Parser.leave]

/-- The operands of a conjunction are kept with the latest first, and turned round where the
conjunction ends. -/
theorem chained_both {ps : List Predicate}
    (h : Chained .both (fun st p st' => st' = st.complete p) st ps st')
    (hn : st.level.negations = 0) :
    st' = ⟨{ st.level with operands := ps.reverse ++ st.level.operands }, st.outer, .joint,
      st.depth⟩ := by
  induction h with
  | last item => rw [item, complete_plain hn, List.reverse_singleton, List.singleton_append]
  | more item feed _ ih =>
    rw [complete_plain hn] at item
    subst item
    obtain rfl := Except.ok.inj feed
    rw [ih hn]
    simp [State.goto]

/-- A conjunction that has been read from where no operand is known yet. -/
def Conjoins (st : State) (p : Predicate) (st' : State) : Prop :=
  ∃ ps : List Predicate, p = .joinAll ps ∧
    st' = ⟨{ st.level with operands := ps.reverse }, st.outer, .joint, st.depth⟩

/-- Where a conjunction begins, or an operand at the beginning of one. -/
structure Begins (depth : UInt64) (st : State) : Prop where
  stage : st.stage = .operand
  negations : st.level.negations = 0
  depth : st.depth = depth

/-- The conjunctions of a disjunction are kept with the latest first, and the last one by its
operands. -/
theorem chained_either {ps : List Predicate} (h : Chained .either Conjoins st ps st') :
    ∃ level : Level, st' = ⟨level, st.outer, .joint, st.depth⟩ ∧
      level.split.disjuncts = ps.reverse ++ st.level.disjuncts := by
  induction h with
  | last item =>
    obtain ⟨qs, rfl, rfl⟩ := item
    exact ⟨_, rfl, by simp [Level.split]⟩
  | more item feed _ ih =>
    obtain ⟨qs, rfl, rfl⟩ := item
    obtain rfl := Except.ok.inj feed
    obtain ⟨level, rfl, hdisjuncts⟩ := ih
    refine ⟨level, rfl, ?_⟩
    rw [hdisjuncts]
    simp [Level.split]

section Operands

variable {turns most : Nat} {depth : UInt64} {operand : Descent Predicate}

/-- **A conjunction of operands that follow the automaton** follows it too.  What an operand does is
a hypothesis, so the recursion is tied in one place only. -/
theorem conjunction_meets (hoperand : ∀ c st, At c st → c.rest.length ≤ turns →
      st.stage = .operand → st.depth = depth → Meets c st (Completes st) (operand c))
    (h : At c st) (hbegins : Begins depth st) (hnone : st.level.operands = [])
    (hturns : c.rest.length ≤ turns) :
    Meets c st (fun p c' st' => c'.depth = st'.depth ∧ Conjoins st p st' ∧ c'.kind ≠ .both)
      (conjunction turns operand c) := by
  refine (chain_meets (fun st p st' => st' = st.complete p) (Begins depth) (fun _ => True) turns
    (by simp) ?_ ?_ turns h hbegins hturns hturns).map ?_
  · intro c st h hmost hbegins
    refine (hoperand c st h hmost hbegins.stage hbegins.depth).mono ?_
    rintro p c' st' ⟨hdepth, rfl⟩
    exact ⟨by rw [hdepth, State.depth_complete hbegins.negations], rfl, trivial⟩
  · rintro st p st' hbegins rfl
    refine ⟨(st.complete p).goto .operand, rfl, rfl, rfl, rfl, ?_⟩
    rw [State.depth_goto, State.depth_complete hbegins.negations, hbegins.depth]
  · rintro ps c' st' ⟨hdepth, hchained, hstop, -⟩
    refine ⟨hdepth, ⟨ps, rfl, ?_⟩, hstop⟩
    rw [chained_both hchained hbegins.negations, hnone, List.append_nil]

/-- **A disjunction of operands that follow the automaton**, at the beginning of a group or of the
whole condition.  The automaton is left with its conjunctions, and the next sign continues none of
them. -/
theorem disjunction_meets (hoperand : ∀ c st, At c st → c.rest.length ≤ turns →
      st.stage = .operand → st.depth = depth → Meets c st (Completes st) (operand c))
    (h : At c st) (hstage : st.stage = .operand) (hlevel : st.level = {})
    (hdepth : st.depth = depth) (hturns : c.rest.length ≤ turns) :
    Meets c st (fun p c' st' => c'.depth = st.depth ∧
        (∃ level : Level, st' = ⟨level, st.outer, .joint, st.depth⟩ ∧ p = level.value) ∧
        c'.kind ≠ .both ∧ c'.kind ≠ .either)
      (disjunction turns operand c) := by
  let Start : State → Prop := fun st => Begins depth st ∧ st.level.operands = []
  have hstart : Start st := ⟨⟨hstage, by rw [hlevel], hdepth⟩, by rw [hlevel]⟩
  refine (chain_meets Conjoins Start (fun c => c.kind ≠ .both) turns (by simp) ?_ ?_ turns h hstart
    hturns hturns).map ?_
  · intro c st h hmost hbegins
    exact conjunction_meets hoperand h hbegins.1 hbegins.2 hmost
  · rintro st p st' hbegins ⟨ps, -, rfl⟩
    exact ⟨_, rfl, rfl, ⟨rfl, hbegins.1.negations, hbegins.1.depth⟩, rfl⟩
  · rintro ps c' st' ⟨hdepth', hchained, heither, hboth⟩
    obtain ⟨level, rfl, hdisjuncts⟩ := chained_either hchained
    refine ⟨hdepth', ⟨level, rfl, ?_⟩, hboth, heither⟩
    rw [Level.value, hdisjuncts, hlevel, List.append_nil, List.reverse_reverse]

end Operands

/-! ## 6. Nesting -/

/-- A sign that opens an operand is counted and taken, unless the bound is reached.  Both sides test
the bound at this sign and nowhere else. -/
theorem enter_meets {x : Descent α} {Q : α → Cursor → State → Prop} (st' : State) (h : At c st)
    (hk : c.kind ≠ .finish) (hdepth : st'.depth = st.depth + 1)
    (hfeed : st.feed c.kind =
      if st.depth.toNat = maxDepth then .error (.tooDeep maxDepth) else .ok st')
    (hx : ∀ c', At c' st' → c'.rest.length < c.rest.length → st.depth.toNat ≠ maxDepth →
      Meets c' st' Q (x c')) : Meets c st Q ((enter >>= fun _ => skip >>= fun _ => x) c) := by
  let inside : Cursor := { c with depth := c.depth + 1 }
  have hrun : (enter >>= fun _ => skip >>= fun _ => x) c =
      if c.depth.toNat = maxDepth then some (.error ⟨.tooDeep maxDepth, c.position⟩, c)
      else x inside.advance := by
    change ((if c.depth.toNat = maxDepth then throw ⟨.tooDeep maxDepth, c.position⟩
      else set inside : Descent Unit) >>= fun _ => skip >>= fun _ => x) c = _
    by_cases hmax : c.depth.toNat = maxDepth
    · rw [if_pos hmax, if_pos hmax]
      rfl
    · rw [if_neg hmax, if_neg hmax]
      rfl
  rw [hrun, h.depth]
  by_cases hmax : st.depth.toNat = maxDepth
  · rw [if_pos hmax] at hfeed ⊢
    exact .fault h hfeed rfl
  · rw [if_neg hmax] at hfeed ⊢
    obtain ⟨t, ts, hrest⟩ := h.closed.exists_cons
    -- the cursor goes on with one sign counted, and `step` speaks of the one that does not count it
    have hinside : inside.advance.rest = c.advance.rest := by
      rw [c.rest_advance hrest, inside.rest_advance hrest]
    have hat : At inside.advance st' := by
      refine ⟨hinside ▸ (h.advance hk rfl : At c.advance st).closed, ?_⟩
      rw [inside.depth_advance, hdepth, ← h.depth]
    have hshort : inside.advance.rest.length < c.rest.length := by
      rw [inside.rest_advance hrest, hrest]
      exact Nat.lt_succ_self _
    have hmeets := hx _ hat hshort hmax
    generalize x inside.advance = out at hmeets
    refine .step h.closed hfeed ?_
    cases hmeets with
    | ok closed hle run post => exact .ok closed (hinside ▸ hle) (hinside ▸ run) post
    | error run hdepth => exact .error (hinside ▸ run) hdepth

/-- The descent comes back from an operand that it entered, and takes one from its count, as the
automaton did at the last sign of the operand. -/
theorem leave_meets {Q : α → Cursor → State → Prop} (a : α) (hclosed : Closed c.rest)
    (hpost : Q a { c with depth := c.depth - 1 } st) :
    Meets c st Q ((leave >>= fun _ => pure a) c) := by
  let outside : Cursor := { c with depth := c.depth - 1 }
  change Meets c st Q (some (.ok a, outside))
  exact .ok hclosed (Nat.le_refl _) rfl hpost

variable {turns : Nat}

/-- Behind a disjunction in parentheses only the closing one is taken, and that completes the
group. -/
theorem closeGroup_meets {level inner : Level} {outer : List Level} {depth : UInt64}
    (h : At c ⟨inner, level :: outer, .joint, depth + 1⟩) (hboth : c.kind ≠ .both)
    (heither : c.kind ≠ .either) :
    Meets c ⟨inner, level :: outer, .joint, depth + 1⟩
      (fun _ c' st' => c'.depth = depth + 1 ∧
        st' = State.complete ⟨level, outer, .operand, depth⟩ inner.value)
      (expect .closeGroup .close c) := by
  refine expect_meets h (by simp) ?_ ?_
  · intro hk
    rw [hk]
    simp only [State.feed, State.feedJoint, State.complete, leave_add_one]
  · intro hk
    cases hkind : c.kind with
    | closeGroup => exact absurd hkind hk
    | both => exact absurd hkind hboth
    | either => exact absurd hkind heither
    | _ => rfl

/-- **An operand is read on both sides alike**, with so many calls left as there may still be signs
open, and one.  By induction on the calls: a sign that is entered takes one of them, and one of the
bound. -/
theorem negation_meets : ∀ (calls : Nat) {c : Cursor} {st : State}, At c st →
    st.stage = .operand → c.rest.length ≤ turns → st.depth.toNat ≤ maxDepth →
    maxDepth < st.depth.toNat + calls → Meets c st (Completes st) (negation turns calls c) := by
  intro calls
  induction calls with
  | zero => exact fun _ _ _ hle hlt => absurd hle (Nat.not_le_of_lt hlt)
  | succ calls ih =>
    intro c st h hstage hturns hle hlt
    obtain ⟨level, outer, stage, depth⟩ := st
    obtain rfl : stage = .operand := hstage
    rw [negation, peek_run]
    have hinside : depth.toNat ≠ maxDepth → (depth + 1).toNat = depth.toNat + 1 := fun hmax =>
      @State.toNat_depth_add_one ⟨level, outer, .operand, depth⟩ (Nat.lt_of_le_of_ne hle hmax)
    change depth.toNat ≤ maxDepth at hle
    change maxDepth < depth.toNat + (calls + 1) at hlt
    cases hk : c.kind with
    | bang =>
      refine enter_meets (State.negate ⟨level, outer, .operand, depth⟩) h (by simp [hk]) rfl
        (by rw [hk]; rfl) fun c' hat hshort hmax => ?_
      have hcount : (State.negate ⟨level, outer, .operand, depth⟩).depth.toNat = depth.toNat + 1 :=
        hinside hmax
      change depth.toNat ≠ maxDepth at hmax
      refine (ih hat rfl (by omega) (by omega) (by omega)).bind ?_
      rintro p c'' st'' closed - ⟨hdepth, rfl⟩
      refine leave_meets _ closed ⟨?_, State.complete_negate _ p⟩
      exact (congrArg (· - 1) hdepth).trans (UInt64.add_sub_cancel depth 1)
    | openGroup =>
      refine enter_meets (State.enter ⟨level, outer, .operand, depth⟩) h (by simp [hk]) rfl
        (by rw [hk]; rfl) fun c' hat hshort hmax => ?_
      have hcount := hinside hmax
      change depth.toNat ≠ maxDepth at hmax
      -- all operands of the group are at one depth, so the calls that are left do for each of them
      have hoperand : ∀ c st, At c st → c.rest.length ≤ turns → st.stage = .operand →
          st.depth = depth + 1 → Meets c st (Completes st) (negation turns calls c) := by
        intro c st h hmost hstage hdepth
        rw [← hdepth] at hcount
        exact ih h hstage hmost (by omega) (by omega)
      refine (disjunction_meets hoperand hat rfl rfl rfl (by omega)).bind ?_
      rintro p c'' st'' closed - ⟨hdepth, ⟨inner, rfl, rfl⟩, hboth, heither⟩
      refine (closeGroup_meets ⟨closed, hdepth⟩ hboth heither).bind ?_
      rintro - c₃ st₃ closed₃ - ⟨hdepth₃, rfl⟩
      refine leave_meets _ closed₃ ⟨?_, rfl⟩
      exact (congrArg (· - 1) hdepth₃).trans (UInt64.add_sub_cancel depth 1)
    | _ => exact predicate_meets h rfl (by simp [hk]) (by simp [hk])

/-! ## 7. Whole rules -/

/-- **The descent ends as the automaton does**: with the rule that the last state has read, or with
the same error, and with the same count of open signs. -/
def Ends (id : RuleId) (tokens : List Token) (st : State) (ts : List Token)
    (out : Option (Except ParseError Rule × Cursor)) : Prop :=
  ∃ (result : Except ParseError Unit) (w : Workspace) (c : Cursor),
    Workspace.take st ts = (result, w) ∧ c.depth = w.state.depth ∧
    out = some (result >>= fun _ => Workspace.rule id tokens w.state, c)

variable {id : RuleId} {tokens : List Token}

/-- What is left to read behind a part ends as the automaton does in front of it.  With it the parts
of a rule are put together from the left. -/
theorem Meets.ends {Q : α → Cursor → State → Prop} {x : Descent α} {f : α → Descent Rule}
    (hx : Meets c st Q (x c)) (hf : ∀ a c' st', Closed c'.rest → Q a c' st' →
      Ends id tokens st' c'.rest (f a c')) : Ends id tokens st c.rest ((x >>= f) c) := by
  rw [bind_run]
  generalize x c = out at hx
  cases hx with
  | error run depth => exact ⟨_, _, _, run, depth.symm, rfl⟩
  | ok closed _ run post =>
    obtain ⟨result, w, c'', htake, hdepth, hout⟩ := hf _ _ _ closed post
    exact ⟨result, w, c'', run.trans htake, hdepth, hout⟩

/-- Behind the action the end sign is the last one, and both sides make the rule of what they
have. -/
theorem finish_ends {level : Level} {p : Predicate} {action : String}
    (h : At c ⟨level, [], .finish p action, 0⟩) :
    Ends id tokens ⟨level, [], .finish p action, 0⟩ c.rest
      ((do expect .finish .finish; return ⟨id, p, action⟩ : Descent Rule) c) := by
  obtain ⟨t, ts, hrest⟩ := h.closed.exists_cons
  rw [bind_run, expect_run, c.kind_of_rest hrest, c.position_of_rest hrest, hrest]
  by_cases hk : t.kind = .finish
  · obtain rfl := (hrest ▸ h.closed).eq_nil hk
    refine ⟨.ok (), ⟨[], ⟨level, [], .done p action, 0⟩⟩, c.advance, ?_, ?_, ?_⟩
    · rw [Workspace.take, hk]
      rfl
    · rw [c.depth_advance, h.depth]
    · rw [if_pos hk]
      rfl
  · have hfeed : State.feed ⟨level, [], .finish p action, 0⟩ t.kind =
        .error (.unexpected t.kind .finish) := by
      cases hkind : t.kind with
      | finish => exact absurd hkind hk
      | _ => rfl
    refine ⟨.error ⟨.unexpected t.kind .finish, t.position⟩,
      ⟨t :: ts, ⟨level, [], .finish p action, 0⟩⟩, c, ?_, h.depth, ?_⟩
    · rw [Workspace.take, hfeed]
    · rw [if_neg hk]
      rfl

/-- **A whole rule ends as the automaton does**, if there are turns for all signs and one call more
than signs may be open. -/
theorem rule_ends {turns calls : Nat} (hclosed : Closed tokens) (hturns : tokens.length ≤ turns)
    (hcalls : maxDepth < calls) :
    Ends id tokens {} tokens (ruleWithin turns calls id { tokens }) := by
  have hat : At { tokens } {} := ⟨hclosed, rfl⟩
  have hoperand : ∀ c st, At c st → c.rest.length ≤ turns → st.stage = .operand →
      st.depth = 0 → Meets c st (Completes st) (negation turns calls c) := by
    intro c st h hmost hstage hdepth
    have hzero : st.depth.toNat = 0 := by rw [hdepth]; rfl
    exact negation_meets _ h hstage hmost (hzero ▸ Nat.zero_le _) (by omega)
  refine (disjunction_meets hoperand hat rfl rfl rfl hturns).ends ?_
  rintro p c st closed ⟨hdepth, ⟨level, rfl, rfl⟩, hboth, heither⟩
  have harrow : Meets c ⟨level, [], .joint, 0⟩
      (fun _ c' st' => c'.depth = 0 ∧ st' = ⟨level, [], .action level.value, 0⟩)
      (expect .arrow .arrow c) := by
    refine expect_meets ⟨closed, hdepth⟩ (by simp) ?_ ?_
    · intro hk
      rw [hk]
      rfl
    · intro hk
      cases hkind : c.kind with
      | arrow => exact absurd hkind hk
      | both => exact absurd hkind hboth
      | either => exact absurd hkind heither
      | _ => rfl
  refine harrow.ends ?_
  rintro - c' st' closed' ⟨hdepth', rfl⟩
  have haction : Meets c' ⟨level, [], .action level.value, 0⟩
      (fun w c'' st' => c''.depth = 0 ∧ st' = ⟨level, [], .finish level.value w, 0⟩)
      (word .action c') := by
    refine literal_meets (fun w => ⟨level, [], .finish level.value w, 0⟩) ⟨closed', hdepth'⟩ rfl ?_
    cases c'.kind <;> rfl
  refine haction.ends ?_
  rintro action c'' st'' closed'' ⟨hdepth'', rfl⟩
  exact finish_ends ⟨closed'', hdepth''⟩

/-- To look at the cursor leaves it where it is.  The descent looks once, for the number of signs
that bounds its turns. -/
theorem get_run (f : Cursor → Descent α) (c : Cursor) : (get >>= f) c = f c c := rfl

theorem rule_run (id : RuleId) (tokens : List Token) :
    rule id { tokens } = ruleWithin tokens.length (maxDepth + 1) id { tokens } :=
  get_run (fun c => ruleWithin c.tokens.length (maxDepth + 1) id) { tokens }

/-- **Parsing by descent and by the automaton is the same.**  For every text the descent has a
result, which is the rule or the error of the automaton; whatever workspace that one uses, both stop
with the same count of open signs. -/
theorem parse_eq (id : RuleId) (text : String) :
    Descent.parse id text = some (Parser.parse id text) ∧
    ∀ (w : Workspace) (tokens : List Token), Scanner.scan text.toList = .ok tokens →
      ∃ c : Cursor, rule id { tokens } = some ((w.parse id text).1, c) ∧
        c.depth = (w.parse id text).2.state.depth := by
  have hends : ∀ (w : Workspace) (tokens : List Token), Scanner.scan text.toList = .ok tokens →
      ∃ c : Cursor, rule id { tokens } = some ((w.parse id text).1, c) ∧
        c.depth = (w.parse id text).2.state.depth := by
    intro w tokens hscan
    have hrule : Ends id tokens {} tokens
        (ruleWithin tokens.length (maxDepth + 1) id { tokens }) :=
      rule_ends (closed_of_scan hscan) (Nat.le_refl _) (Nat.lt_succ_self maxDepth)
    obtain ⟨result, w', c, htake, hdepth, hrun⟩ := hrule
    refine ⟨c, ?_, ?_⟩
    · rw [rule_run, hrun, Workspace.parse, hscan]
      simp only [htake]
      cases result <;> rfl
    · rw [hdepth, Workspace.parse, hscan]
      simp only [htake]
      cases result <;> rfl
  refine ⟨?_, hends⟩
  rw [Descent.parse]
  cases hscan : Scanner.scan text.toList with
  | error e => rw [Parser.parse, Workspace.parse, hscan]
  | ok tokens =>
    obtain ⟨c, hrun, -⟩ := hends {} tokens hscan
    exact congrArg (Option.map Prod.fst) hrun

end Descent

end Turnstile.Parser
