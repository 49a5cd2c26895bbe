/-
# Signs are scanned as they are spelled

Every sign has a spelling, and the scanner turns the spelling back into the sign.  The
claim is about one sign at a time, in whatever state the scanner is (`steps_spelling`), so
it serves every text that is made of spelled signs.

**Reading a state.**  A word or an equals sign is complete only when the next character
does not go on with it, so behind one the state holds signs that are not yet among its
tokens.  `State.Reads` counts them in: a state reads as the signs that the text would have
if it ended there.

**Signs that need a blank between them.**  Two spellings side by side run together in three
cases only: a word before a word or before a regex literal, and `=` before `>`
(`TokenKind.fits`).  Everything else may be written without blanks.

**Literals.**  In a string every quote and backslash is behind a backslash of its own.  In
a regex only slashes are, so its source may hold no pair of backslash and slash, which
would be read as a slash, and no last backslash without a partner, which would take the
closing slash with it.
-/
import Turnstile.Proofs.Text.Backslash
import Turnstile.Rule.Scanner

namespace Turnstile

open Turnstile.Text

/-! ## 1. Signs that have a spelling -/

/-- Text that is scanned as one word. -/
def IsWord (w : String) : Prop :=
  w.toList ≠ [] ∧ w.toList.head? ≠ some '/' ∧ ∀ c ∈ w.toList, Scanner.isWordChar c = true

instance (w : String) : Decidable (IsWord w) :=
  decidable_of_iff (w.toList ≠ [] ∧ w.toList.head? ≠ some '/' ∧
    w.toList.all Scanner.isWordChar = true) (by rw [List.all_eq_true, IsWord])

namespace TokenKind

/-- The sign is scanned from its spelling.  The end of the text is not spelled. -/
def Spellable : TokenKind → Prop
  | word w => IsWord w
  | regex r => slashPair false r.toList = false ∧ openPair false r.toList = false
  | finish => False
  | _ => True

instance : (k : TokenKind) → Decidable k.Spellable
  | word w => inferInstanceAs (Decidable (IsWord w))
  | regex r => inferInstanceAs
    (Decidable (slashPair false r.toList = false ∧ openPair false r.toList = false))
  | finish => inferInstanceAs (Decidable False)
  | string _ | equals | tilde | greater | bang | both | either | openGroup | closeGroup | arrow =>
    inferInstanceAs (Decidable True)

/-- Whether a sign may stand right behind another one. -/
def fits : (before behind : TokenKind) → Bool
  | word _, word _ => false
  | word _, regex _ => false
  | equals, greater => false
  | _, _ => true

end TokenKind

namespace Scanner

/-! ## 2. Runs of the scanner -/

/-- Reads the characters of a text. -/
def steps (st : State) (cs : List Char) : Except ParseError State :=
  cs.foldlM State.step st

theorem steps_append {st st' : State} {cs : List Char} (ds : List Char)
    (h : steps st cs = .ok st') : steps st (cs ++ ds) = steps st' ds := by
  simp only [steps, List.foldlM_append] at h ⊢
  rw [h]
  rfl

/-- One character, by what the stage makes of it: the signs that it completes, and the stage behind
it. -/
theorem steps_cons {st : State} {c : Char} {tokens : List Token} {stage : Stage}
    (cs : List Char) (h : advance st.position c st.stage = .ok (tokens, stage)) :
    steps st (c :: cs) = steps ⟨tokens ++ st.tokens, stage, st.position.after c⟩ cs := by
  simp only [steps, List.foldlM_cons, State.step, h]
  rfl

/-- A run that reads a character makes something of it, and goes on from there; there is no run past
an error. -/
theorem steps_cons_ok {st st' : State} {c : Char} {cs : List Char}
    (h : steps st (c :: cs) = .ok st') :
    ∃ tokens stage, advance st.position c st.stage = .ok (tokens, stage) ∧
      steps ⟨tokens ++ st.tokens, stage, st.position.after c⟩ cs = .ok st' := by
  cases ha : advance st.position c st.stage with
  | error e =>
    simp only [steps, List.foldlM_cons, State.step, ha] at h
    cases h
  | ok out =>
    obtain ⟨tokens, stage⟩ := out
    exact ⟨tokens, stage, rfl, by rwa [steps_cons cs ha] at h⟩

/-- The state reads as these signs: they are what the text has if it ends here. -/
def State.Reads (st : State) (ks : List TokenKind) : Prop :=
  ∃ open_, last st.stage = .ok open_ ∧ (open_ ++ st.tokens).reverse.map Token.kind = ks

theorem State.reads_start : State.Reads {} [] := ⟨[], rfl, rfl⟩

/-- A text whose last state reads as some signs is cut into them, with the end sign behind. -/
theorem scan_of_reads {st : State} {cs : List Char} {ks : List TokenKind}
    (h : steps {} cs = .ok st) (hr : st.Reads ks) :
    ∃ tokens, scan cs = .ok tokens ∧ tokens.map Token.kind = ks ++ [.finish] := by
  obtain ⟨open_, hlast, hks⟩ := hr
  refine ⟨(⟨.finish, st.position⟩ :: open_ ++ st.tokens).reverse, ?_, ?_⟩
  · simp only [steps] at h
    simp only [scan, h, bind, Except.bind, hlast]
    rfl
  · rw [← hks]
    simp

/-- The signs of a text are those of the last state, the sign that is open in it, and the end
sign. -/
theorem steps_of_scan {cs : List Char} {tokens : List Token} (h : scan cs = .ok tokens) :
    ∃ st open_, steps {} cs = .ok st ∧ last st.stage = .ok open_ ∧
      tokens = (open_ ++ st.tokens).reverse ++ [⟨.finish, st.position⟩] := by
  simp only [scan] at h
  cases hst : cs.foldlM State.step {} with
  | error e =>
    rw [hst] at h
    cases h
  | ok st =>
    cases hl : last st.stage with
    | error e =>
      simp only [hst, bind, Except.bind, hl] at h
      cases h
    | ok open_ =>
      simp only [hst, bind, Except.bind, hl] at h
      obtain rfl := Except.ok.inj h
      exact ⟨st, open_, hst, hl, by simp⟩

/-- An error in a text comes up at one of its characters, or at its end, where a literal may still
be open. -/
theorem steps_of_scan_error {cs : List Char} {e : ParseError} (h : scan cs = .error e) :
    steps {} cs = .error e ∨ ∃ st, steps {} cs = .ok st ∧ last st.stage = .error e := by
  simp only [scan] at h
  cases hst : cs.foldlM State.step {} with
  | error e' =>
    simp only [hst, bind, Except.bind] at h
    obtain rfl := Except.error.inj h
    exact Or.inl hst
  | ok st =>
    cases hl : last st.stage with
    | error e' =>
      simp only [hst, bind, Except.bind, hl] at h
      obtain rfl := Except.error.inj h
      exact Or.inr ⟨st, hst, hl⟩
    | ok open_ =>
      simp only [hst, bind, Except.bind, hl] at h
      cases h

/-- The last state of a text reads as the signs of the text.  With the lemma above, scanning and
reading say the same of a text. -/
theorem reads_of_scan {cs : List Char} {tokens : List Token} (h : scan cs = .ok tokens) :
    ∃ st ks, steps {} cs = .ok st ∧ st.Reads ks ∧ tokens.map Token.kind = ks ++ [.finish] := by
  obtain ⟨st, open_, hst, hl, rfl⟩ := steps_of_scan h
  exact ⟨st, _, hst, ⟨open_, hl, rfl⟩, by rw [List.map_append]; rfl⟩

/-! ## 3. Where a sign begins -/

/-- The character goes on with the sign that the stage is in, though that sign could end
here. -/
def Stage.continues : Stage → Char → Bool
  | .word _ _, c => isWordChar c
  | .equals _, c => c == '>'
  | _, _ => false

/-- Whether a sign that is spelled at this stage is cut off from the one before it. -/
def Stage.admits : Stage → TokenKind → Bool
  | .word _ _, .word _ => false
  | .word _ _, .regex _ => false
  | .equals _, .greater => false
  | _, _ => true

/-- A character that does not go on with the current sign ends it and begins the next.  The two are
independent, which is why signs can be put side by side. -/
theorem advance_begin {stage : Stage} {open_ : List Token} {c : Char} (p : Position)
    (hl : last stage = .ok open_) (hc : stage.continues c = false) :
    advance p c stage = .ok ((begin p c).1 ++ open_, (begin p c).2) := by
  cases stage with
  | between =>
    obtain rfl : [] = open_ := Except.ok.inj hl
    simp [advance]
  | word start read =>
    obtain rfl : [⟨.word (textOf read), start⟩] = open_ := Except.ok.inj hl
    have hw : isWordChar c = false := hc
    simp [advance, hw]
  | equals start =>
    obtain rfl : [⟨.equals, start⟩] = open_ := Except.ok.inj hl
    have hg : c ≠ '>' := by simpa [Stage.continues] using hc
    simp [advance, hg]
  | _ => cases hl

/-- **The first character of a sign.**  What was read before it is complete, and the state
is as at the start of a text but for that. -/
theorem steps_begin {st : State} {ks : List TokenKind} {c : Char} (cs : List Char)
    (hr : st.Reads ks) (hc : st.stage.continues c = false) :
    ∃ tokens : List Token, tokens.reverse.map Token.kind = ks ∧
      steps st (c :: cs) = steps ⟨(begin st.position c).1 ++ tokens,
        (begin st.position c).2, st.position.after c⟩ cs := by
  obtain ⟨open_, hlast, hks⟩ := hr
  refine ⟨open_ ++ st.tokens, hks, ?_⟩
  rw [steps_cons cs (advance_begin st.position hlast hc), List.append_assoc]

/-- A blank ends the current sign and begins none, so the scanner is between signs behind it. -/
theorem begin_blank {c : Char} (p : Position) (h : isBlank c = true) :
    begin p c = ([], .between) := by
  unfold begin
  split <;> first | exact absurd h (by decide) | skip
  rw [if_pos h]

/-- A blank goes on with no sign.  Inside quotes and slashes the question is not asked, since a
literal that is open cannot end there. -/
theorem continues_blank {c : Char} (stage : Stage) (h : isBlank c = true) :
    stage.continues c = false := by
  cases stage with
  | word start read => simp [Stage.continues, isWordChar, h]
  | equals start =>
    have hne : c ≠ '>' := fun e => absurd (e ▸ h) (by decide)
    simpa [Stage.continues] using hne
  | _ => rfl

/-- **Blanks only separate.**  Behind one the state reads as before, and any sign may follow. -/
theorem steps_blank {st : State} {ks : List TokenKind} {c : Char} (hr : st.Reads ks)
    (h : isBlank c = true) :
    ∃ st', steps st [c] = .ok st' ∧ st'.Reads ks ∧ st'.stage = .between := by
  obtain ⟨tokens, hks, hs⟩ := steps_begin [] hr (continues_blank st.stage h)
  rw [begin_blank _ h] at hs
  exact ⟨_, hs, ⟨[], rfl, hks⟩, rfl⟩

/-! ## 4. Words and literals -/

/-- A word goes on to its end, one character at a time, with the latest character first in what has
been read. -/
theorem steps_word (tokens : List Token) (start : Position) :
    ∀ (cs read : List Char) (p : Position), (∀ c ∈ cs, isWordChar c = true) →
      ∃ q, steps ⟨tokens, .word start read, p⟩ cs =
        .ok ⟨tokens, .word start (cs.reverse ++ read), q⟩
  | [], read, p, _ => ⟨p, rfl⟩
  | c :: cs, read, p, h => by
    have hc : isWordChar c = true := h c (by simp)
    obtain ⟨q, hq⟩ := steps_word tokens start cs (c :: read) (p.after c) fun d hd =>
      h d (by simp [hd])
    have hstep : advance p c (.word start read) = .ok ([], .word start (c :: read)) := by
      simp [advance, hc]
    refine ⟨q, ?_⟩
    rw [steps_cons cs hstep]
    simpa using hq

/-- A word begins with its first character, unless that is a slash, which begins a regex. -/
theorem begin_word {c : Char} (p : Position) (h : isWordChar c = true) (hs : c ≠ '/') :
    begin p c = ([], .word p [c]) := by
  unfold begin
  split <;> first | exact absurd h (by decide) | exact absurd rfl hs | skip
  have hb : isBlank c = false := by
    simp only [isWordChar, Bool.and_eq_true, Bool.not_eq_true'] at h
    exact h.1
  rw [if_neg (by simp [hb])]

theorem begin_equals (p : Position) : begin p '=' = ([], .equals p) := rfl

/-- The inside of a string literal goes on to its end, each escape in it being read back as the
character it stands for. -/
theorem steps_quote (tokens : List Token) (start : Position) :
    ∀ (cs read : List Char) (p : Position),
      ∃ q, steps ⟨tokens, .string start read false, p⟩ (TokenKind.quote cs) =
        .ok ⟨tokens, .string start (cs.reverse ++ read) false, q⟩
  | [], read, p => ⟨p, rfl⟩
  | c :: cs, read, p => by
    by_cases hc : c = '"' ∨ c = '\\'
    · obtain ⟨q, hq⟩ := steps_quote tokens start cs (c :: read) ((p.after '\\').after c)
      have hback : advance p '\\' (.string start read false) =
          .ok ([], .string start read true) := by simp [advance]
      have hchar : advance (p.after '\\') c (.string start read true) =
          .ok ([], .string start (c :: read) false) := by simp [advance]
      refine ⟨q, ?_⟩
      rw [TokenKind.quote, List.flatMap_cons, if_pos hc, List.cons_append, List.cons_append,
        List.nil_append, steps_cons _ hback, steps_cons _ hchar]
      simpa [TokenKind.quote] using hq
    · obtain ⟨q, hq⟩ := steps_quote tokens start cs (c :: read) (p.after c)
      have hchar : advance p c (.string start read false) =
          .ok ([], .string start (c :: read) false) := by
        simp only [not_or] at hc
        simp [advance, hc.1, hc.2]
      refine ⟨q, ?_⟩
      rw [TokenKind.quote, List.flatMap_cons, if_neg hc, List.cons_append, List.nil_append,
        steps_cons _ hchar]
      simpa [TokenKind.quote] using hq

/-- What the inside of a regex literal stands for so far.  A backslash that waits for its partner is
not among the characters read. -/
def sourceOf (read : List Char) (escaped : Bool) : List Char :=
  read.reverse ++ if escaped then ['\\'] else []

/-- A character of a source that is no slash is scanned as it is, and only tells whether a backslash
is now waiting. -/
theorem advance_source {c : Char} (start p : Position) (read : List Char) (escaped : Bool)
    (hc : c ≠ '/') :
    ∃ read', advance p c (.regex start read escaped) =
        .ok ([], .regex start read' (!escaped && c == '\\')) ∧
      sourceOf read' (!escaped && c == '\\') = sourceOf read escaped ++ [c] := by
  cases escaped with
  | true => exact ⟨c :: '\\' :: read, by simp [advance, hc], by simp [sourceOf]⟩
  | false =>
    by_cases hb : c = '\\'
    · exact ⟨read, by simp [advance, hb], by simp [sourceOf, hb]⟩
    · exact ⟨c :: read, by simp [advance, hc, hb], by simp [sourceOf, hb]⟩

/-- **The inside of a regex literal.**  By induction on the source, where the stage knows
whether a backslash waits for its partner. -/
theorem steps_slash (tokens : List Token) (start : Position) :
    ∀ (cs read : List Char) (escaped : Bool) (p : Position), slashPair escaped cs = false →
      ∃ read' q, steps ⟨tokens, .regex start read escaped, p⟩ (TokenKind.slash cs) =
          .ok ⟨tokens, .regex start read' (openPair escaped cs), q⟩ ∧
        sourceOf read' (openPair escaped cs) = sourceOf read escaped ++ cs
  | [], read, escaped, p, _ => ⟨read, p, rfl, by simp [openPair]⟩
  | c :: cs, read, escaped, p, h => by
    simp only [slashPair, Bool.or_eq_false_iff] at h
    obtain ⟨hpair, hcs⟩ := h
    by_cases hc : c = '/'
    · obtain rfl : escaped = false := by simpa [hc] using hpair
      subst hc
      have hback : advance p '\\' (.regex start read false) =
          .ok ([], .regex start read true) := by simp [advance]
      have hchar : advance (p.after '\\') '/' (.regex start read true) =
          .ok ([], .regex start ('/' :: read) false) := by simp [advance]
      obtain ⟨read', q, hq, hsource⟩ := steps_slash tokens start cs ('/' :: read) false _ hcs
      refine ⟨read', q, ?_, ?_⟩
      · rw [TokenKind.slash, List.flatMap_cons, if_pos rfl, List.cons_append, List.cons_append,
          List.nil_append, steps_cons _ hback, steps_cons _ hchar]
        exact hq
      · simpa [sourceOf, openPair] using hsource
    · obtain ⟨read₁, hchar, hone⟩ := advance_source start p read escaped hc
      obtain ⟨read', q, hq, hsource⟩ := steps_slash tokens start cs read₁ _ (p.after c) hcs
      refine ⟨read', q, ?_, ?_⟩
      · rw [TokenKind.slash, List.flatMap_cons, if_neg hc, List.cons_append, List.nil_append,
          steps_cons _ hchar]
        exact hq
      · rw [openPair, hsource, hone, List.append_assoc]
        rfl

/-! ## 5. Signs -/

/-- The first character of a sign goes on with the one before it exactly if the sign is not
admitted. -/
theorem continues_spelling {stage : Stage} {k : TokenKind} {c : Char} {cs : List Char}
    (hk : k.Spellable) (hc : k.spelling = c :: cs) : stage.continues c = !stage.admits k := by
  -- the first character of a word is its own, that of any other sign is fixed
  have hword : ∀ {w}, k = .word w → isWordChar c = true := by
    rintro w rfl
    exact hk.2.2 c (by rw [show w.toList = c :: cs from hc]; simp)
  cases stage with
  | word start read =>
    cases k with
    | word w => exact hword rfl
    | finish => cases hk
    | _ =>
      obtain ⟨rfl, -⟩ := List.cons.inj hc
      rfl
  | equals start =>
    cases k with
    | word w =>
      have hne : c ≠ '>' := fun e => absurd (e ▸ hword rfl) (by decide)
      simpa [Stage.continues, Stage.admits] using hne
    | finish => cases hk
    | _ =>
      obtain ⟨rfl, -⟩ := List.cons.inj hc
      rfl
  | _ => rfl

/-- A state that has just completed a sign is between signs, and reads as the signs before with the
new one behind. -/
theorem reads_complete {tokens : List Token} {ks : List TokenKind} (k : TokenKind)
    (p q : Position) (h : tokens.reverse.map Token.kind = ks) :
    State.Reads ⟨⟨k, p⟩ :: tokens, .between, q⟩ (ks ++ [k]) :=
  ⟨[], rfl, by simp [← h]⟩

/-- **A sign is scanned as it is spelled**, in any state that cuts it off from the sign
before it; and behind it the state admits exactly what may stand there. -/
theorem steps_spelling {st : State} {ks : List TokenKind} {k : TokenKind} (hr : st.Reads ks)
    (ha : st.stage.admits k = true) (hk : k.Spellable) :
    ∃ st', steps st k.spelling = .ok st' ∧ st'.Reads (ks ++ [k]) ∧
      ∀ k', st'.stage.admits k' = k.fits k' := by
  -- every sign has a first character; what is left of it is read from that state on
  have first : ∀ {c cs}, k.spelling = c :: cs →
      ∃ tokens : List Token, tokens.reverse.map Token.kind = ks ∧
        steps st k.spelling = steps ⟨(begin st.position c).1 ++ tokens,
          (begin st.position c).2, st.position.after c⟩ cs := by
    intro c cs hc
    rw [hc]
    exact steps_begin cs hr (by rw [continues_spelling hk hc, ha]; rfl)
  cases k with
  | finish => cases hk
  | word w =>
    obtain ⟨hne, hslash, hall⟩ := hk
    obtain ⟨c, cs, hw⟩ := List.exists_cons_of_ne_nil hne
    obtain ⟨tokens, hks, hs⟩ := first hw
    rw [hw] at hslash hall
    rw [begin_word _ (hall c (by simp)) (by simpa using hslash)] at hs
    obtain ⟨q, hq⟩ := steps_word tokens st.position cs [c]
      (st.position.after c) fun d hd => hall d (by simp [hd])
    have hword : textOf (cs.reverse ++ [c]) = w := by
      rw [textOf, List.reverse_append, List.reverse_reverse]
      exact (congrArg String.ofList hw.symm).trans String.ofList_toList
    refine ⟨_, hs.trans hq, ⟨_, rfl, ?_⟩, ?_⟩
    · simp [hword, ← hks]
    · intro k'
      cases k' <;> rfl
  | string s =>
    obtain ⟨tokens, hks, hs⟩ := first rfl
    obtain ⟨q, hq⟩ := steps_quote tokens st.position s.toList []
      (st.position.after '"')
    have hend : advance q '"' (.string st.position (s.toList.reverse ++ []) false) =
        .ok ([⟨.string s, st.position⟩], .between) := by
      simp [advance, textOf]
    refine ⟨_, hs.trans ((steps_append ['"'] hq).trans (steps_cons [] hend)),
      reads_complete _ _ _ hks, fun _ => rfl⟩
  | regex r =>
    obtain ⟨tokens, hks, hs⟩ := first rfl
    obtain ⟨read, q, hq, hsource⟩ := steps_slash tokens st.position
      r.toList [] false (st.position.after '/') hk.1
    rw [hk.2] at hq hsource
    have hread : read.reverse = r.toList := by simpa [sourceOf] using hsource
    have hend : advance q '/' (.regex st.position read false) =
        .ok ([⟨.regex r, st.position⟩], .between) := by
      simp [advance, textOf, hread]
    refine ⟨_, hs.trans ((steps_append ['/'] hq).trans (steps_cons [] hend)),
      reads_complete _ _ _ hks, fun _ => rfl⟩
  | equals =>
    obtain ⟨tokens, hks, hs⟩ := first rfl
    refine ⟨_, hs, ⟨_, rfl, ?_⟩, ?_⟩
    · rw [begin_equals, ← hks]
      simp
    · intro k'
      cases k' <;> rfl
  | arrow =>
    obtain ⟨tokens, hks, hs⟩ := first rfl
    exact ⟨_, hs.trans (steps_cons [] rfl), reads_complete _ _ _ hks, fun _ => rfl⟩
  | both | either =>
    obtain ⟨tokens, hks, hs⟩ := first rfl
    exact ⟨_, hs.trans (steps_cons [] rfl), reads_complete _ _ _ hks, fun _ => rfl⟩
  | _ =>
    obtain ⟨tokens, hks, hs⟩ := first rfl
    exact ⟨_, hs, reads_complete _ _ _ hks, fun _ => rfl⟩

end Scanner

end Turnstile
