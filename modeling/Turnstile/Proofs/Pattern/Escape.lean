/-
# Where escapes stop

A pattern is compiled twice, alone and between anchors, and the second time the text
`)\z` stands behind it.  This module and the ones that build on it compare the two readings
piece by piece: a reader that stops inside a text does the same with the closing text
behind.

**What can go wrong** is only a comment of verbose mode.  A comment that is open at the end
of the text takes the closing text with it; everything else ends where it ended.  So a
reader's result is described by the place where it stopped and by whether it then dropped
what means nothing (`Stops`), and the two cases are told apart once, at the end
(`Stops.ends`).

What a reader has taken leaves no backslash without a partner: it ends with a character
that is none, or with an escaped one.
-/
import Mathlib.Data.List.TakeDrop
import Turnstile.Pattern.Escape
import Turnstile.Proofs.Text.Backslash

namespace Turnstile.Pattern

open Turnstile.Text

/-! ## 1. Blanks and comments -/

/-- What stands behind a pattern between anchors. -/
def closing : List Char := [')', '\\', 'z']

/-- A result of two steps is one of the second, from a result of the first.  Readers are taken apart
with it instead of being unfolded. -/
theorem bind_ok {α β : Type} {x : Except Fault α} {f : α → Except Fault β} {b : β}
    (h : x >>= f = .ok b) : ∃ a, x = .ok a ∧ f a = .ok b := by
  cases x with
  | error e => cases h
  | ok a => exact ⟨a, rfl, h⟩

theorem skipVerbose_append (t : List Char) : ∀ (comment : Bool) (cs : List Char),
    skipVerbose comment cs ≠ [] → skipVerbose comment (cs ++ t) = skipVerbose comment cs ++ t
  | comment, [], h => absurd (by cases comment <;> rfl) h
  | true, c :: cs, h => skipVerbose_append t (c != '\n') cs h
  | false, c :: cs, h => by
    simp only [skipVerbose, List.cons_append] at h ⊢
    by_cases hb : isBlank c = true
    · simp only [if_pos hb] at h ⊢
      exact skipVerbose_append t false cs h
    · by_cases hn : c = '#'
      · simp only [if_neg hb, if_pos hn] at h ⊢
        exact skipVerbose_append t true cs h
      · simp only [if_neg hb, if_neg hn, List.cons_append]

/-- What is behind a character that counts does not matter for what is dropped before it, in verbose
mode or out of it. -/
theorem skip_append {verbose : Bool} {cs : List Char} (t : List Char)
    (h : skip verbose cs ≠ []) : skip verbose (cs ++ t) = skip verbose cs ++ t := by
  cases verbose with
  | false => rfl
  | true => exact skipVerbose_append t false cs h

theorem skipVerbose_suffix : ∀ (comment : Bool) (cs : List Char),
    skipVerbose comment cs <:+ cs
  | comment, [] => by cases comment <;> exact List.suffix_rfl
  | true, c :: cs => (skipVerbose_suffix (c != '\n') cs).trans (List.suffix_cons c cs)
  | false, c :: cs => by
    simp only [skipVerbose]
    split
    · exact (skipVerbose_suffix false cs).trans (List.suffix_cons c cs)
    · split
      · exact (skipVerbose_suffix true cs).trans (List.suffix_cons c cs)
      · exact List.suffix_rfl

theorem skip_suffix (verbose : Bool) (cs : List Char) : skip verbose cs <:+ cs := by
  cases verbose with
  | false => exact List.suffix_rfl
  | true => exact skipVerbose_suffix false cs

/-- Comments end with a line feed, or with the text.  In the second case they take the closing text
too. -/
theorem skipVerbose_closing : ∀ (comment : Bool) (cs : List Char),
    (∃ u, cs = u ++ skipVerbose comment cs ∧ u.getLast? ≠ some '\\' ∧
      (comment = true → u ≠ []) ∧
      skipVerbose comment (cs ++ closing) = skipVerbose comment cs ++ closing) ∨
    (skipVerbose comment cs = [] ∧ skipVerbose comment (cs ++ closing) = [])
  | true, [] => Or.inr ⟨rfl, by decide⟩
  | false, [] => Or.inl ⟨[], rfl, by simp, by simp, by decide⟩
  | true, c :: cs => by
    rcases skipVerbose_closing (c != '\n') cs with ⟨u, hu, hlast, hne, hskip⟩ | hend
    · refine Or.inl ⟨c :: u, congrArg (c :: ·) hu, ?_, by simp, hskip⟩
      cases u with
      | nil =>
        have hc : c = '\n' := by simpa using hne
        simp [hc]
      | cons d u => simpa using hlast
    · exact Or.inr hend
  | false, c :: cs => by
    simp only [skipVerbose, List.cons_append]
    by_cases hb : isBlank c = true
    · simp only [if_pos hb]
      rcases skipVerbose_closing false cs with ⟨u, hu, hlast, -, hskip⟩ | hend
      · refine Or.inl ⟨c :: u, congrArg (c :: ·) hu, ?_, by simp, hskip⟩
        cases u with
        | nil =>
          have hc : c ≠ '\\' := fun e => absurd (e ▸ hb) (by decide)
          simpa using hc
        | cons d u => simpa using hlast
      · exact Or.inr hend
    · by_cases hn : c = '#'
      · subst hn
        simp only [if_neg hb, if_true]
        rcases skipVerbose_closing true cs with ⟨u, hu, hlast, hne, hskip⟩ | hend
        · refine Or.inl ⟨'#' :: u, congrArg ('#' :: ·) hu, ?_, by simp, hskip⟩
          cases u with
          | nil => exact absurd rfl (hne rfl)
          | cons d u => simpa using hlast
        · exact Or.inr hend
      · simp only [if_neg hb, if_neg hn]
        exact Or.inl ⟨[], rfl, by simp, by simp, rfl⟩

/-- **What is dropped in front of the closing text.**  Either the closing text is still
there, or a comment has taken it and nothing is left. -/
theorem skip_closing (verbose : Bool) (cs : List Char) :
    (∃ u, cs = u ++ skip verbose cs ∧ openPair false u = false ∧
      skip verbose (cs ++ closing) = skip verbose cs ++ closing) ∨
    (skip verbose cs = [] ∧ skip verbose (cs ++ closing) = []) := by
  cases verbose with
  | false => exact Or.inl ⟨[], rfl, rfl, rfl⟩
  | true =>
    rcases skipVerbose_closing false cs with ⟨u, hu, hlast, -, hskip⟩ | hend
    · exact Or.inl ⟨u, hu, openPair_of_getLast? hlast, hskip⟩
    · exact Or.inr hend

theorem collectFrom_append {verbose : Bool} {p : Char → Bool} (t : List Char) :
    ∀ (comment : Bool) (cs : List Char) {run rest : List Char},
      collectFrom verbose p comment cs = (run, rest) → rest ≠ [] →
      collectFrom verbose p comment (cs ++ t) = (run, rest ++ t) ∧ rest <:+ cs ∧
        ∀ d ∈ rest.head?, p d = false
  | comment, [], run, rest, h, hne => by
    cases comment <;> exact absurd (Prod.mk.inj h).2.symm hne
  | true, c :: cs, run, rest, h, hne => by
    obtain ⟨happ, hsuf, hstop⟩ := collectFrom_append t (c != '\n') cs h hne
    exact ⟨happ, hsuf.trans (List.suffix_cons c cs), hstop⟩
  | false, c :: cs, run, rest, h, hne => by
    simp only [collectFrom, List.cons_append] at h ⊢
    by_cases hb : (verbose && isBlank c) = true
    · rw [if_pos hb] at h ⊢
      obtain ⟨happ, hsuf, hstop⟩ := collectFrom_append t false cs h hne
      exact ⟨happ, hsuf.trans (List.suffix_cons c cs), hstop⟩
    rw [if_neg hb] at h ⊢
    by_cases hn : (verbose && c == '#') = true
    · rw [if_pos hn] at h ⊢
      obtain ⟨happ, hsuf, hstop⟩ := collectFrom_append t true cs h hne
      exact ⟨happ, hsuf.trans (List.suffix_cons c cs), hstop⟩
    rw [if_neg hn] at h ⊢
    by_cases hp : p c = true
    · rw [if_pos hp] at h ⊢
      cases hmore : collectFrom verbose p false cs with
      | mk more rest' =>
        rw [hmore] at h
        obtain ⟨rfl, rfl⟩ := Prod.mk.inj h
        obtain ⟨happ, hsuf, hstop⟩ := collectFrom_append t false cs hmore hne
        exact ⟨by rw [happ], hsuf.trans (List.suffix_cons c cs), hstop⟩
    · rw [if_neg hp] at h ⊢
      obtain ⟨rfl, rfl⟩ := Prod.mk.inj h
      exact ⟨rfl, List.suffix_rfl, by simpa using hp⟩

/-- A run that ends before the text does, ends there whatever is behind.  The character that has
ended it is the first of the rest. -/
theorem collect_append {verbose : Bool} {p : Char → Bool} {cs run rest : List Char}
    (t : List Char) (h : collect verbose p cs = (run, rest)) (hne : rest ≠ []) :
    collect verbose p (cs ++ t) = (run, rest ++ t) ∧ rest <:+ cs ∧
      ∀ d ∈ rest.head?, p d = false :=
  collectFrom_append t false cs h hne

/-- A run in front of a character that ends it stays as it is with more text behind, and is what the
rest lacks of the text. -/
theorem span_append {p : Char → Bool} {cs run rest : List Char} (t : List Char)
    (h : cs.span p = (run, rest)) (hne : rest ≠ []) :
    (cs ++ t).span p = (run, rest ++ t) ∧ cs = run ++ rest ∧ ∀ d ∈ rest.head?, p d = false := by
  rw [List.span_eq_takeWhile_dropWhile] at h ⊢
  obtain ⟨rfl, rfl⟩ := Prod.mk.inj h
  have hall : cs.takeWhile p ++ cs.dropWhile p = cs := List.takeWhile_append_dropWhile
  have hlen : (cs.takeWhile p).length ≠ cs.length := by
    intro e
    have hsum := congrArg List.length hall
    rw [List.length_append] at hsum
    exact hne (List.length_eq_zero_iff.mp (by omega))
  rw [List.takeWhile_append, if_neg hlen, List.dropWhile_append,
    if_neg (by simpa using hne)]
  refine ⟨rfl, hall.symm, ?_⟩
  intro d hd
  have hstop := List.head?_dropWhile_not p cs
  rw [hd] at hstop
  exact hstop

/-! ## 2. Where a reader stops -/

section Stops

variable {α : Type} {f : List Char → Except Fault (α × List Char)} {escaped : Bool}
  {cs rest : List Char} {x : α}

/-- A reader takes a part of a text that leaves no backslash open, may drop what means nothing
behind it, and does the same with the closing text behind.  `escaped` says whether a backslash is
waiting in front of the text. -/
def Stops (f : List Char → Except Fault (α × List Char)) (escaped : Bool) (cs : List Char)
    (x : α) (rest : List Char) : Prop :=
  ∃ u r verbose, cs = u ++ r ∧ openPair escaped u = false ∧ rest = skip verbose r ∧
    f (cs ++ closing) = .ok (x, skip verbose (r ++ closing))

/-- A reader that drops nothing behind what it takes: the closing text is then still there in the
second reading, behind the rest. -/
theorem Stops.of_rest {u : List Char} (hcs : cs = u ++ rest) (hu : openPair escaped u = false)
    (h : f (cs ++ closing) = .ok (x, rest ++ closing)) : Stops f escaped cs x rest :=
  ⟨u, rest, false, hcs, hu, rfl, h⟩

/-- A reader that stops right behind a character that is no backslash.  Whatever stands before that
character, it leaves no backslash open. -/
theorem Stops.of_suffix {c : Char} (hcs : c :: rest <:+ cs) (hc : c ≠ '\\')
    (h : f (cs ++ closing) = .ok (x, rest ++ closing)) : Stops f false cs x rest := by
  obtain ⟨u, rfl⟩ := hcs
  exact Stops.of_rest (u := u ++ [c]) (by simp) (openPair_concat hc) h

/-- **Two ways to stop.**  The closing text is still there and the text so far leaves no
backslash open, or a comment has taken all that was left. -/
theorem Stops.ends (h : Stops f escaped cs x rest) :
    (f (cs ++ closing) = .ok (x, rest ++ closing) ∧
      ∃ u, cs = u ++ rest ∧ openPair escaped u = false) ∨
    (rest = [] ∧ f (cs ++ closing) = .ok (x, [])) := by
  obtain ⟨u, r, verbose, rfl, hu, rfl, hf⟩ := h
  rcases skip_closing verbose r with ⟨w, hr, hw, hskip⟩ | ⟨hnil, hskip⟩
  · rw [hskip] at hf
    refine Or.inl ⟨hf, u ++ w, ?_, ?_⟩
    · rw [List.append_assoc, ← hr]
    · rw [openPair_append, hu, hw]
  · rw [hskip] at hf
    exact Or.inr ⟨hnil, hf⟩

/-- A reader that leaves something has not met the closing text, so the rest of the second reading
is that of the first with the closing text behind. -/
theorem Stops.append (h : Stops f escaped cs x rest) (hne : rest ≠ []) :
    f (cs ++ closing) = .ok (x, rest ++ closing) ∧ rest <:+ cs := by
  rcases h.ends with ⟨hf, u, hu, -⟩ | ⟨hnil, -⟩
  · exact ⟨hf, u, hu.symm⟩
  · exact absurd hnil hne

/-- A reader that goes on with the value of another one stops where that one does, if it takes
nothing more of the text. -/
theorem Stops.map {β : Type} {g : List Char → Except Fault (β × List Char)} {y : β}
    (h : Stops f escaped cs x rest)
    (hg : ∀ r, f (cs ++ closing) = .ok (x, r) → g (cs ++ closing) = .ok (y, r)) :
    Stops g escaped cs y rest := by
  obtain ⟨u, r, verbose, hcs, hu, hrest, hf⟩ := h
  exact ⟨u, r, verbose, hcs, hu, hrest, hg _ hf⟩

/-- A reader that has taken some characters goes on as another one, which begins with a backslash
waiting if those characters leave one. -/
theorem Stops.behind {g : List Char → Except Fault (α × List Char)} (w : List Char)
    (hg : g (w ++ (cs ++ closing)) = f (cs ++ closing))
    (h : Stops f (openPair escaped w) cs x rest) : Stops g escaped (w ++ cs) x rest := by
  obtain ⟨u, r, verbose, rfl, hu, hrest, hf⟩ := h
  refine ⟨w ++ u, r, verbose, (List.append_assoc _ _ _).symm, ?_, hrest, ?_⟩
  · rw [openPair_append, hu]
  · rw [List.append_assoc, hg, hf]

end Stops

/-! ## 3. Escapes -/

namespace Escape

/-- Hexadecimal digits are no backslashes, so a code point can be cut anywhere without leaving half
an escape. -/
theorem ne_backslash_of_inBase? : ∀ {cs : List Char} {n m : Nat},
    cs.foldlM (fun n c => (hexDigit? c).bind fun d =>
      if d < 16 then some (16 * n + d) else none) n = some m → ∀ c ∈ cs, c ≠ '\\'
  | [], _, _, _, c, hc => absurd hc (by simp)
  | d :: cs, n, m, h, c, hc => by
    rw [List.foldlM_cons] at h
    obtain ⟨k, hk, hrest⟩ := Option.bind_eq_some_iff.mp h
    rcases List.mem_cons.mp hc with rfl | hc
    · rintro rfl
      cases hk
    · exact ne_backslash_of_inBase? hrest c hc

theorem ne_backslash_of_codePoint {digits : List Char} {c : Char}
    (h : codePoint digits = .ok c) : ∀ d ∈ digits, d ≠ '\\' := by
  unfold codePoint at h
  cases hn : hex? digits with
  | none =>
    rw [hn] at h
    cases h
  | some n =>
    unfold hex? at hn
    split at hn
    · cases hn
    · exact ne_backslash_of_inBase? hn

/-- Digits of a fixed number: what is dropped behind the last one is all that may reach
beyond the text. -/
theorem fixedDigits_stops {verbose : Bool} : ∀ (count : Nat) (cs : List Char)
    {digits rest : List Char}, fixedDigits verbose (count + 1) cs = some (digits, rest) →
    ∃ u d r, cs = u ++ d :: r ∧ d ∈ digits ∧ rest = skip verbose r ∧
      fixedDigits verbose (count + 1) (cs ++ closing) =
        some (digits, skip verbose (r ++ closing))
  | _, [], _, _, h => by cases h
  | 0, c :: cs, digits, rest, h => by
    obtain ⟨rfl, rfl⟩ := Prod.mk.inj (Option.some.inj h)
    exact ⟨[], c, cs, rfl, by simp, rfl, rfl⟩
  | count + 1, c :: cs, digits, rest, h => by
    obtain ⟨⟨more, rest'⟩, hmore, heq⟩ := Option.bind_eq_some_iff.mp h
    obtain ⟨rfl, rfl⟩ := Prod.mk.inj (Option.some.inj heq)
    have hne : skip verbose cs ≠ [] := by
      intro e
      rw [e] at hmore
      cases hmore
    obtain ⟨u, d, r, hu, hd, hrest, hclosing⟩ := fixedDigits_stops count _ hmore
    obtain ⟨w, hw⟩ := skip_suffix verbose cs
    refine ⟨c :: (w ++ u), d, r, ?_, by simp [hd], hrest, ?_⟩
    · rw [List.cons_append, List.append_assoc, ← hu, hw]
    · rw [List.cons_append, fixedDigits, skip_append closing hne, hclosing]
      rfl

/-- A code point without braces.  In verbose mode its digits may stand apart, which is why they are
not read as a run. -/
theorem hex_digits {f : Flags} {count : Nat} {cs more : List Char} {c : Char}
    (hs : skip f.verbose cs = c :: more) (hc : c ≠ '{') :
    hex f count cs = match fixedDigits f.verbose count (c :: more) with
      | none => .error .badEscape
      | some (digits, rest) => do
        let c ← codePoint digits
        if count = 2 ∧ !f.unicode ∧ 0x7F < c.toNat then throw .splitsCharacters
        return (.char c, rest) := by
  unfold hex
  rw [hs]
  split
  · next h => cases h
  · next h => exact absurd (List.cons.inj h).1 hc
  · rfl

theorem hex_stops {f : Flags} {count : Nat} {cs rest : List Char} {a : Atom}
    (h : hex f (count + 1) cs = .ok (a, rest)) : Stops (hex f (count + 1)) false cs a rest := by
  cases hs : skip f.verbose cs with
  | nil =>
    simp only [hex, hs] at h
    cases h
  | cons c more =>
    have hclosing : skip f.verbose (cs ++ closing) = c :: (more ++ closing) := by
      rw [skip_append closing (by simp [hs]), hs, List.cons_append]
    obtain ⟨w, hw⟩ := skip_suffix f.verbose cs
    rw [hs] at hw
    by_cases hc : c = '{'
    · subst hc
      simp only [hex, hs] at h
      split at h
      · next digits d rest' hdigits =>
        obtain ⟨x, hx, heq⟩ := bind_ok h
        obtain ⟨rfl, rfl⟩ := Prod.mk.inj (Except.ok.inj heq)
        obtain ⟨hcollect, ⟨u, hu⟩, hstop⟩ := collect_append closing hdigits (by simp)
        obtain rfl : d = '}' := by simpa using hstop
        refine ⟨w ++ '{' :: u ++ ['}'], rest', f.verbose, ?_, ?_, rfl, ?_⟩
        · rw [← hw, ← hu]
          simp
        · exact openPair_concat (by decide)
        · simp only [hex, hclosing, hcollect, List.cons_append, hx]
          rfl
      · cases h
    · rw [hex_digits hs hc] at h
      split at h
      · cases h
      · next digits rest' hdigits =>
        obtain ⟨x, hx, heq⟩ := bind_ok h
        obtain ⟨u, d, r, hu, hd, rfl, hfixed⟩ := fixedDigits_stops count _ hdigits
        have hne : d ≠ '\\' := ne_backslash_of_codePoint hx d hd
        obtain ⟨hsplit, hpure⟩ : ¬(count + 1 = 2 ∧ !f.unicode ∧ 0x7F < x.toNat) ∧
            (Atom.char x, skip f.verbose r) = (a, rest) := by
          by_cases hbyte : count + 1 = 2 ∧ !f.unicode ∧ 0x7F < x.toNat
          · rw [if_pos hbyte] at heq
            cases heq
          · rw [if_neg hbyte] at heq
            exact ⟨hbyte, Except.ok.inj heq⟩
        obtain ⟨rfl, rfl⟩ := Prod.mk.inj hpure
        refine ⟨w ++ u ++ [d], r, f.verbose, ?_, openPair_concat hne, rfl, ?_⟩
        · rw [← hw, hu]
          simp
        · rw [hex_digits hclosing hc, ← List.cons_append, hfixed]
          simp only [hx, bind, Except.bind, if_neg hsplit]
          rfl

/-- A property class once its name is read. -/
def classOf (f : Flags) (negated : Bool) (body rest : List Char) :
    Except Fault (Atom × List Char) := do
  if !f.unicode then throw .unicodeOff
  let s ← f.negate negated (f.fold (← property body))
  return (.set s, rest)

/-- What is behind the name does not matter for the class: the name is looked up in the tables, and
the rest of the text is handed on. -/
theorem classOf_ok {f : Flags} {negated : Bool} {body r rest : List Char} {a : Atom}
    (h : classOf f negated body r = .ok (a, rest)) :
    rest = r ∧ ∀ t, classOf f negated body t = .ok (a, t) := by
  unfold classOf at h ⊢
  by_cases hu : (!f.unicode) = true
  · simp only [if_pos hu] at h
    cases h
  · simp only [if_neg hu] at h ⊢
    obtain ⟨s, hs, h⟩ := bind_ok h
    obtain ⟨s', hs', h⟩ := bind_ok h
    obtain ⟨rfl, rfl⟩ := Prod.mk.inj (Except.ok.inj h)
    exact ⟨rfl, fun t => by simp only [hs, bind, Except.bind, hs', pure, Except.pure]⟩

theorem unicodeClass_named {f : Flags} {negated : Bool} {cs more body rest : List Char}
    {d : Char} (hs : skip f.verbose cs = '{' :: more)
    (hc : collect f.verbose (· != '}') more = (body, d :: rest)) :
    unicodeClass f negated cs = classOf f negated body rest := by
  simp only [unicodeClass, hs, hc]
  rfl

theorem unicodeClass_letter {f : Flags} {negated : Bool} {cs more : List Char} {c : Char}
    (hs : skip f.verbose cs = c :: more) (hc : c ≠ '{') (hb : c ≠ '\\') :
    unicodeClass f negated cs = classOf f negated [c] (skip f.verbose more) := by
  unfold unicodeClass
  rw [hs]
  dsimp only
  split
  · next h => cases h
  · next h => exact absurd (List.cons.inj h).1 hc
  · next h => exact absurd (List.cons.inj h).1 hb
  · next h =>
    obtain ⟨rfl, rfl⟩ := List.cons.inj h
    rfl

theorem unicodeClass_stops {f : Flags} {negated : Bool} {cs rest : List Char} {a : Atom}
    (h : unicodeClass f negated cs = .ok (a, rest)) :
    Stops (unicodeClass f negated) false cs a rest := by
  cases hs : skip f.verbose cs with
  | nil =>
    simp only [unicodeClass, hs] at h
    cases h
  | cons c more =>
    have hclosing : skip f.verbose (cs ++ closing) = c :: (more ++ closing) := by
      rw [skip_append closing (by simp [hs]), hs, List.cons_append]
    obtain ⟨w, hw⟩ := skip_suffix f.verbose cs
    rw [hs] at hw
    by_cases hc : c = '{'
    · subst hc
      cases hbody : collect f.verbose (· != '}') more with
      | mk body behind =>
        cases behind with
        | nil =>
          simp only [unicodeClass, hs, hbody] at h
          cases h
        | cons d rest' =>
          rw [unicodeClass_named hs hbody] at h
          obtain ⟨rfl, hclass⟩ := classOf_ok h
          obtain ⟨hcollect, ⟨u, hu⟩, hstop⟩ := collect_append closing hbody (by simp)
          obtain rfl : d = '}' := by simpa using hstop
          refine Stops.of_suffix (c := '}') ⟨w ++ '{' :: u, ?_⟩ (by decide) ?_
          · rw [← hw, ← hu]
            simp
          · rw [unicodeClass_named hclosing hcollect]
            exact hclass _
    · by_cases hb : c = '\\'
      · subst hb
        simp only [unicodeClass, hs] at h
        cases h
      · rw [unicodeClass_letter hs hc hb] at h
        obtain ⟨rfl, hclass⟩ := classOf_ok h
        refine ⟨w ++ [c], more, f.verbose, ?_, openPair_concat hb, rfl, ?_⟩
        · rw [← hw]
          simp
        · rw [unicodeClass_letter hclosing hc hb]
          exact hclass _

/-- A word edge, plain or named in braces.  Braces in which something else than a name comes first
are looked into and left alone, so nothing of them is taken. -/
theorem wordEdge_stops {f : Flags} {cs rest : List Char} {a : Atom}
    (h : wordEdge f cs = .ok (a, rest)) : Stops (wordEdge f) false cs a rest := by
  unfold wordEdge at h
  dsimp only at h
  split at h
  · next inside =>
    split at h
    · cases h
    · next c more hs =>
      have hclosing : skip f.verbose (inside ++ closing) = c :: (more ++ closing) := by
        rw [skip_append closing (by simp [hs]), hs, List.cons_append]
      split at h
      · next hname =>
        obtain ⟨rfl, rfl⟩ := Prod.mk.inj (Except.ok.inj h)
        refine Stops.of_rest (u := []) rfl rfl ?_
        simp only [wordEdge, List.cons_append, hclosing, if_pos hname]
      · next hname =>
        split at h
        · next name rest' hcollect =>
          split at h
          · next edge hedge =>
            obtain ⟨rfl, rfl⟩ := Prod.mk.inj (Except.ok.inj h)
            obtain ⟨happ, ⟨u, hu⟩, -⟩ := collect_append closing hcollect (by simp)
            obtain ⟨w, hw⟩ := skip_suffix f.verbose inside
            rw [hs, ← hu] at hw
            refine Stops.of_suffix (c := '}') ⟨'{' :: w ++ u, ?_⟩ (by decide) ?_
            · rw [← hw]
              simp
            · rw [List.cons_append] at happ
              simp only [wordEdge, List.cons_append, hclosing, if_neg hname, happ, hedge]
          · cases h
        · cases h
  · next hbrace =>
    obtain ⟨rfl, rfl⟩ := Prod.mk.inj (Except.ok.inj h)
    refine Stops.of_rest (u := []) rfl rfl ?_
    have hhead : ∀ inside, cs ++ closing ≠ '{' :: inside := by
      intro inside e
      cases cs with
      | nil => cases e
      | cons c cs => exact hbrace cs (by rw [(List.cons.inj e).1])
    unfold wordEdge
    dsimp only
    split
    · next inside e => exact absurd e (hhead inside)
    · rfl

/-- An escape of one character.  The letters that are excluded go on behind the letter, and have
lemmas of their own. -/
theorem read_letter {f : Flags} {c : Char} {cs rest : List Char} {a : Atom}
    (hc : c ∉ ['x', 'u', 'U', 'p', 'P', 'b']) (h : read f (c :: cs) = .ok (a, rest)) :
    rest = cs ∧ ∀ t, read f (c :: t) = .ok (a, t) := by
  simp only [read] at h
  split at h
  case h_1 | h_2 | h_3 | h_4 | h_5 | h_20 => simp at hc
  case h_9 | h_10 | h_11 =>
    obtain ⟨s, hs, h⟩ := bind_ok h
    obtain ⟨rfl, rfl⟩ := Prod.mk.inj (Except.ok.inj h)
    exact ⟨rfl, fun t => by simp only [read, hs]; rfl⟩
  case h_24 =>
    split at h
    · next hplain =>
      obtain ⟨rfl, rfl⟩ := Prod.mk.inj (Except.ok.inj h)
      exact ⟨rfl, fun t => by simp only [read, if_pos hplain]⟩
    · split at h <;> cases h
  all_goals
    obtain ⟨rfl, rfl⟩ := Prod.mk.inj (Except.ok.inj h)
    exact ⟨rfl, fun t => rfl⟩

/-- **Where an escape stops.**  A backslash is waiting in front of the text, and it has found its
partner where the escape ends. -/
theorem read_stops {f : Flags} {cs rest : List Char} {a : Atom} (h : read f cs = .ok (a, rest)) :
    Stops (read f) true cs a rest := by
  cases cs with
  | nil => cases h
  | cons c cs =>
    by_cases hc : c ∈ ['x', 'u', 'U', 'p', 'P', 'b']
    · simp only [List.mem_cons, List.not_mem_nil, or_false] at hc
      rcases hc with rfl | rfl | rfl | rfl | rfl | rfl
      · exact Stops.behind [_] rfl (hex_stops h)
      · exact Stops.behind [_] rfl (hex_stops h)
      · exact Stops.behind [_] rfl (hex_stops h)
      · exact Stops.behind [_] rfl (unicodeClass_stops h)
      · exact Stops.behind [_] rfl (unicodeClass_stops h)
      · exact Stops.behind [_] rfl (wordEdge_stops h)
    · obtain ⟨rfl, hread⟩ := read_letter hc h
      exact Stops.of_rest (u := [c]) rfl rfl (hread _)

end Escape

end Turnstile.Pattern
