/-
# Positions are coherent

Every sign and every error of a text is placed in it: at a byte offset between two characters, in
the line and column that the characters in front of it make.  The signs go on from one to the next,
what lies between them is blank, and the end sign stands behind the text.

For the scanner this is what `Tiling.lean` says.  The parser places each of its errors at a sign
that it could not take (`parse_error_placed`).  It never comes to the end of the signs before a rule
is complete, since it takes the end sign only there (`finished_of_take`); so it never has to place
an error where no sign is.
-/
import Turnstile.Proofs.Rule.Diagnosis

namespace Turnstile.Parser

open Turnstile.Text Turnstile.Scanner

variable {id : RuleId} {text : String} {tokens : List Token}

/-- When all signs of a text are taken, a rule is complete, so the parser has no error to report at
the end. -/
theorem finished_of_take {w : Workspace} (hscan : scan text.toList = .ok tokens)
    (h : Workspace.take {} tokens = (.ok (), w)) : w.state.Finished := by
  have htake := take_eq_feeds tokens {}
  cases hs : feeds {} (tokens.map Token.kind) with
  | error fault =>
    rw [hs] at htake
    obtain ⟨e, w', htake⟩ := htake
    cases h.symm.trans htake
  | ok s =>
    rw [hs] at htake
    obtain rfl : w = ⟨[], s⟩ := congrArg Prod.snd (h.symm.trans htake)
    obtain ⟨s', hs', hfinished⟩ := accepts_of_feeds hscan hs
    obtain rfl := Except.ok.inj (hs.symm.trans hs')
    exact hfinished

/-- **An error is that of the scanner, or is placed at a sign**, the end sign included. -/
theorem parse_error_placed {e : ParseError} (h : parse id text = .error e) :
    scan text.toList = .error e ∨
      ∃ tokens t, scan text.toList = .ok tokens ∧ t ∈ tokens ∧ e.position = t.position := by
  cases hscan : scan text.toList with
  | error e' =>
    simp only [parse, Workspace.parse, hscan] at h
    obtain rfl := Except.error.inj h
    exact Or.inl rfl
  | ok tokens =>
    have hfails : ∀ r, parse id text ≠ .ok r := by
      intro r hr
      cases h.symm.trans hr
    obtain ⟨e', w, htake, hparse⟩ := exists_take_error hscan hfails
    obtain rfl := Except.error.inj (h.symm.trans hparse)
    obtain ⟨before, t, after, st, rfl, -, -, hposition⟩ := take_error htake
    exact Or.inr ⟨_, t, rfl, by simp, hposition⟩

/-- All signs of a text are in it, the end sign at its end, where the offset is the length of the
text in bytes. -/
theorem isIn_of_scan (hscan : scan text.toList = .ok tokens) :
    ∀ t ∈ tokens, t.position.IsIn text.toList := by
  obtain ⟨signs, rfl, hlaid⟩ := scan_laid hscan
  intro t ht
  rcases List.mem_append.mp ht with ht | ht
  · exact hlaid.isIn t ht
  · obtain rfl := List.mem_singleton.mp ht
    exact ⟨text.toList, [], by simp, rfl⟩

/-- Each sign of a text begins behind the one before it, so positions are in the order of the
signs. -/
theorem offsets_of_scan (hscan : scan text.toList = .ok tokens) :
    tokens.Pairwise fun t u => t.position.offset < u.position.offset := by
  obtain ⟨signs, rfl, hlaid⟩ := scan_laid hscan
  obtain ⟨hend, hsigns⟩ := hlaid.offsets
  refine List.pairwise_append.mpr ⟨hsigns, List.pairwise_singleton _ _, ?_⟩
  intro t ht u hu
  obtain rfl := List.mem_singleton.mp hu
  exact hend t ht

/-- **Positions are coherent.**  The signs of a text and blanks make it up, with each sign where its
position says, and the end sign, the only one, stands behind the text; offsets grow from each sign
to the next.  All these positions and those of errors are in the text: behind so many characters of
it, with their bytes as the offset and their line feeds counted.  The parser places its errors at
signs.  It has a complete rule when it has taken all of them, and no error is ever left without a
place. -/
theorem positions_coherent (text : String) :
    (∀ tokens, scan text.toList = .ok tokens →
      (∃ signs, tokens = signs ++ [⟨.finish, .behind text.toList⟩] ∧ Laid text.toList signs ∧
        ∀ t ∈ signs, t.kind ≠ .finish) ∧
      (Position.behind text.toList).offset = text.utf8ByteSize ∧
      (∀ t ∈ tokens, t.position.IsIn text.toList) ∧
      (tokens.Pairwise fun t u => t.position.offset < u.position.offset) ∧
      ∀ w, Workspace.take {} tokens = (.ok (), w) → w.state.Finished) ∧
    (∀ e, scan text.toList = .error e → e.position.IsIn text.toList) ∧
    (∀ (id : RuleId) (e : ParseError), parse id text = .error e →
      e.position.IsIn text.toList ∧ e.position ≠ .unknown ∧
      (scan text.toList = .error e ∨
        ∃ tokens t, scan text.toList = .ok tokens ∧ t ∈ tokens ∧ e.position = t.position)) := by
  refine ⟨?_, fun e => scan_error_isIn, ?_⟩
  · intro tokens hscan
    obtain ⟨signs, rfl, hlaid⟩ := scan_laid hscan
    have hnone : ∀ t ∈ signs, t.kind ≠ .finish := by
      intro t ht e
      exact (e ▸ hlaid.spellable t ht : TokenKind.Spellable .finish)
    refine ⟨⟨signs, rfl, hlaid, hnone⟩, ?_, isIn_of_scan hscan, offsets_of_scan hscan,
      fun w => finished_of_take hscan⟩
    rw [Position.behind, String.ofList_toList]
  · intro id e h
    have hplaced := parse_error_placed h
    have hin : e.position.IsIn text.toList := by
      obtain hscan | ⟨tokens, t, hscan, ht, hposition⟩ := hplaced
      · exact scan_error_isIn hscan
      · rw [hposition]
        exact isIn_of_scan hscan t ht
    exact ⟨hin, hin.ne_unknown, hplaced⟩

/-- A string over two lines, with characters of two and three bytes in it and behind it: an arrow
that follows is on the second line.  A word too many is an error there; and a regex literal that
does not end is one at its first slash, on the line before. -/
theorem positions_coherent_lines :
    ∃ (text : String) (tokens signs : List Token) (w : Workspace) (e e' : ParseError),
      text = "Host = \"é\n\\\"ü\"\u3000=> a" ∧ scan text.toList = .ok tokens ∧
      Workspace.take {} tokens = (.ok (), w) ∧ w.state.Finished ∧
      tokens = signs ++ [⟨.finish, ⟨23, 2, 10⟩⟩] ∧ Laid text.toList signs ∧
      ⟨.arrow, ⟨19, 2, 6⟩⟩ ∈ tokens ∧ (Position.mk 19 2 6).IsIn text.toList ∧
      (tokens.Pairwise fun t u => t.position.offset < u.position.offset) ∧
      parse 1 (text ++ " b") = .error e ∧ e.position = ⟨24, 2, 11⟩ ∧
      e.position.IsIn (text ++ " b").toList ∧ e.position ≠ .unknown ∧
      scan "Host ~ /é\n".toList = .error e' ∧ e'.position = ⟨7, 1, 8⟩ ∧
      e'.position.IsIn "Host ~ /é\n".toList := by
  obtain ⟨text, htext⟩ : ∃ text, text = "Host = \"é\n\\\"ü\"\u3000=> a" := ⟨_, rfl⟩
  obtain ⟨tokens, hscan, w, htake, harrow⟩ : ∃ tokens, scan text.toList = .ok tokens ∧
      ∃ w, Workspace.take {} tokens = (.ok (), w) ∧ ⟨.arrow, ⟨19, 2, 6⟩⟩ ∈ tokens := by
    rw [htext]
    exact ⟨_, rfl, _, rfl, by decide⟩
  obtain ⟨e, hparse, he⟩ : ∃ e : ParseError,
      parse 1 (text ++ " b") = .error e ∧ e.position = ⟨24, 2, 11⟩ := by
    rw [htext]
    exact ⟨_, rfl, rfl⟩
  obtain ⟨e', hopen, he'⟩ : ∃ e' : ParseError,
      scan "Host ~ /é\n".toList = .error e' ∧ e'.position = ⟨7, 1, 8⟩ := ⟨_, rfl, rfl⟩
  obtain ⟨⟨signs, hsigns, hlaid, -⟩, -, hin, hoffsets, hfinished⟩ :=
    (positions_coherent text).1 tokens hscan
  have hend : Position.behind text.toList = ⟨23, 2, 10⟩ := by
    rw [htext]
    rfl
  rw [hend] at hsigns
  obtain ⟨hplace, hknown, -⟩ := (positions_coherent _).2.2 1 e hparse
  exact ⟨text, tokens, signs, w, e, e', htext, hscan, htake, hfinished w htake, hsigns, hlaid,
    harrow, hin _ harrow, hoffsets, hparse, he, hplace, hknown, hopen, he',
    (positions_coherent _).2.1 e' hopen⟩

end Turnstile.Parser
