/-
# Blanks only separate

Signs are spelled one after the other, with any blanks before, between and behind them (`Spread`).
Where blanks may be left out is settled by neighbours alone: a word runs on into a word or into a
regex literal, and `=` into `>`; nothing else is in need of a blank.

**With enough blanks** the signs are scanned as they are.  This is `steps_spelling`, one sign after
the other.

**Without one of them** they are not, whatever follows.  A sign that is gone on with is longer from
then on, or has become an arrow, and what has been scanned never changes again
(`continues_changes`).  So the text may be an error, or have other signs, but never those that were
spelled.

Both halves are one induction over the signs (`isChain_iff_reads`): as long as neighbours are apart
the scanner reads the signs, and at the first two that are not it goes wrong for good.
-/
import Mathlib.Data.List.Chain
import Turnstile.Proofs.Rule.Tiling

namespace Turnstile

open Turnstile.Text

/-! ## 1. Signs with blanks -/

/-- A sign that has a spelling, and the blanks in front of it. -/
structure Entry where
  gap : List Char
  kind : TokenKind
  blank : ∀ c ∈ gap, isBlank c = true
  spellable : kind.Spellable

/-- Signs in a row, and the blanks behind the last one. -/
structure Spread where
  entries : List Entry
  tail : List Char
  blank : ∀ c ∈ tail, isBlank c = true

/-- The characters of a sign and the blanks in front of it. -/
def Entry.chars (e : Entry) : List Char :=
  e.gap ++ e.kind.spelling

/-- Two signs in a row have a blank between them if they need one. -/
def Entry.Apart (a b : Entry) : Prop :=
  a.kind.fits b.kind = true ∨ b.gap ≠ []

namespace Spread

/-- The text of the signs and blanks. -/
def chars (s : Spread) : List Char :=
  s.entries.flatMap Entry.chars ++ s.tail

/-- The signs. -/
def kinds (s : Spread) : List TokenKind :=
  s.entries.map Entry.kind

/-- There are blanks wherever they are needed. -/
def Separated (s : Spread) : Prop :=
  s.entries.IsChain Entry.Apart

end Spread

/-- No spelling is empty, so each sign of a text has a first character to be told apart by. -/
theorem TokenKind.Spellable.spelling_ne_nil {k : TokenKind} (h : k.Spellable) :
    k.spelling ≠ [] := by
  cases k with
  | word w => exact h.1
  | finish => cases h
  | _ => simp [TokenKind.spelling]

namespace Scanner

/-! ## 2. Signs that are gone on with -/

/-- **What has been scanned stays**: the signs of a state are the first of whatever the text turns
out to read as. -/
theorem scanned_stays : ∀ {cs : List Char} {st st' : State} {ks : List TokenKind},
    steps st cs = .ok st' → st'.Reads ks →
    ∃ more, ks = st.tokens.reverse.map Token.kind ++ more
  | [], st, st', ks, h, hr => by
    obtain rfl := Except.ok.inj h
    obtain ⟨open_, -, rfl⟩ := hr
    exact ⟨open_.reverse.map Token.kind, by simp⟩
  | c :: cs, st, st', ks, h, hr => by
    obtain ⟨tokens, stage, -, h⟩ := steps_cons_ok h
    obtain ⟨more, rfl⟩ := scanned_stays h hr
    exact ⟨tokens.reverse.map Token.kind ++ more, by simp⟩

/-- A word that has been begun is scanned as a word that begins so, so no longer text makes a
shorter word of it. -/
theorem word_goes_on {tokens : List Token} {start : Position} :
    ∀ {cs read : List Char} {p : Position} {st : State} {ks : List TokenKind},
      steps ⟨tokens, .word start read, p⟩ cs = .ok st → st.Reads ks →
      ∃ behind rest,
        ks = tokens.reverse.map Token.kind ++ .word (textOf (behind ++ read)) :: rest
  | [], read, p, st, ks, h, hr => by
    obtain rfl := Except.ok.inj h
    obtain ⟨open_, hlast, rfl⟩ := hr
    obtain rfl : [⟨.word (textOf read), start⟩] = open_ := Except.ok.inj hlast
    exact ⟨[], [], by simp⟩
  | c :: cs, read, p, st, ks, h, hr => by
    by_cases hc : isWordChar c = true
    · have hstep : advance p c (.word start read) = .ok ([], .word start (c :: read)) := by
        simp [advance, hc]
      rw [steps_cons cs hstep] at h
      obtain ⟨behind, rest, rfl⟩ := word_goes_on h hr
      exact ⟨behind ++ [c], rest, by simp⟩
    · have hstep : advance p c (.word start read) =
          .ok ((begin p c).1 ++ [⟨.word (textOf read), start⟩], (begin p c).2) :=
        advance_begin p rfl (by simpa [Stage.continues] using hc)
      rw [steps_cons cs hstep] at h
      obtain ⟨more, rfl⟩ := scanned_stays h hr
      exact ⟨[], (begin p c).1.reverse.map Token.kind ++ more, by simp⟩

/-- The sign that is open in a state is the last that it reads as, and those before it are
complete. -/
theorem open_of_reads {st : State} {t : Token} {ks : List TokenKind} {k : TokenKind}
    (hlast : last st.stage = .ok [t]) (hr : st.Reads (ks ++ [k])) :
    ks = st.tokens.reverse.map Token.kind ∧ k = t.kind := by
  obtain ⟨open_, hopen, hks⟩ := hr
  obtain rfl : [t] = open_ := Except.ok.inj (hlast.symm.trans hopen)
  rw [List.singleton_append, List.reverse_cons, List.map_append] at hks
  obtain ⟨hfront, hk⟩ := List.append_inj' hks rfl
  exact ⟨hfront.symm, (List.singleton_inj.mp hk).symm⟩

/-- **A sign that is gone on with is another one**, whatever follows.  This is the half that says
where a blank is needed. -/
theorem continues_changes {st st' : State} {ks ks' : List TokenKind} {k : TokenKind} {c : Char}
    {cs : List Char} (hr : st.Reads (ks ++ [k])) (hc : st.stage.continues c = true)
    (h : steps st (c :: cs) = .ok st') (hr' : st'.Reads ks') :
    ∃ k' rest, ks' = ks ++ k' :: rest ∧ k' ≠ k := by
  obtain ⟨tokens, stage, p⟩ := st
  cases stage with
  | word start read =>
    obtain ⟨rfl, rfl⟩ := open_of_reads rfl hr
    have hstep : advance p c (.word start read) = .ok ([], .word start (c :: read)) := by
      simp [advance, show isWordChar c = true from hc]
    rw [steps_cons cs hstep] at h
    obtain ⟨behind, rest, rfl⟩ := word_goes_on h hr'
    refine ⟨_, rest, rfl, ?_⟩
    -- the word is longer than what had been read of it
    intro e
    have hlength := congrArg String.length (TokenKind.word.inj e)
    simp [textOf] at hlength
  | equals start =>
    obtain ⟨rfl, rfl⟩ := open_of_reads rfl hr
    have harrow : advance p c (.equals start) = .ok ([⟨.arrow, start⟩], .between) := by
      simp [advance, show c = '>' by simpa [Stage.continues] using hc]
    rw [steps_cons cs harrow] at h
    obtain ⟨more, rfl⟩ := scanned_stays h hr'
    exact ⟨.arrow, more, by simp, by simp⟩
  | _ => cases hc

/-! ## 3. Signs in a row -/

/-- A run of blanks keeps what the state reads as, and any sign may follow unless it is empty.  An
empty one changes nothing at all. -/
theorem steps_gap : ∀ {gap : List Char} {st : State} {ks : List TokenKind}, st.Reads ks →
    (∀ c ∈ gap, isBlank c = true) →
    ∃ st', steps st gap = .ok st' ∧ st'.Reads ks ∧
      ∀ k, st.stage.admits k = true ∨ gap ≠ [] → st'.stage.admits k = true
  | [], st, ks, hr, _ => ⟨st, rfl, hr, fun k hk => by simpa using hk⟩
  | c :: gap, st, ks, hr, hgap => by
    obtain ⟨hc, hgap⟩ := List.forall_mem_cons.mp hgap
    obtain ⟨st₁, hstep, hr₁, hbetween⟩ := steps_blank hr hc
    obtain ⟨st', hsteps, hr', hadmits⟩ := steps_gap hr₁ hgap
    refine ⟨st', (steps_append gap hstep).trans hsteps, hr', fun k _ => hadmits k ?_⟩
    rw [hbetween]
    exact Or.inl rfl

/-- **Signs in a row are scanned as they are exactly if they are apart.**  Both directions go along
the row together, from any state that reads as some signs. -/
theorem isChain_iff_reads {tail : List Char} (htail : ∀ c ∈ tail, isBlank c = true) :
    ∀ {entries : List Entry} {st : State} {ks : List TokenKind}, st.Reads ks →
      (∀ e ∈ entries.head?, st.stage.admits e.kind = true ∨ e.gap ≠ []) →
      (entries.IsChain Entry.Apart ↔
        ∃ st', steps st (entries.flatMap Entry.chars ++ tail) = .ok st' ∧
          st'.Reads (ks ++ entries.map Entry.kind))
  | [], st, ks, hr, _ => by
    obtain ⟨st', hsteps, hr', -⟩ := steps_gap hr htail
    exact ⟨fun _ => ⟨st', hsteps, by simpa using hr'⟩, fun _ => .nil⟩
  | e :: entries, st, ks, hr, hadmits => by
    obtain ⟨st₁, hgap, hr₁, hadmits₁⟩ := steps_gap hr e.blank
    obtain ⟨st₂, hspelling, hr₂, hfits⟩ :=
      steps_spelling hr₁ (hadmits₁ e.kind (hadmits e rfl)) e.spellable
    have hsteps : steps st ((e :: entries).flatMap Entry.chars ++ tail) =
        steps st₂ (entries.flatMap Entry.chars ++ tail) := by
      rw [List.flatMap_cons, Entry.chars, List.append_assoc, List.append_assoc,
        steps_append _ hgap, steps_append _ hspelling]
    have hkinds : ks ++ (e :: entries).map Entry.kind =
        ks ++ [e.kind] ++ entries.map Entry.kind := by simp
    rw [hsteps, hkinds, List.isChain_cons]
    by_cases hapart : ∀ b ∈ entries.head?, e.Apart b
    · rw [and_iff_right hapart]
      refine isChain_iff_reads htail hr₂ fun b hb => ?_
      rw [hfits]
      exact hapart b hb
    · -- the next sign goes on with this one
      refine iff_of_false (fun h => hapart h.1) ?_
      simp only [not_forall, Entry.Apart, not_or, Bool.not_eq_true, not_not] at hapart
      obtain ⟨b, hb, hfit, hnone⟩ := hapart
      obtain ⟨rest, rfl⟩ := List.head?_eq_some_iff.mp hb
      obtain ⟨c, cs, hc⟩ := List.exists_cons_of_ne_nil b.spellable.spelling_ne_nil
      have hcontinues : st₂.stage.continues c = true := by
        rw [continues_spelling b.spellable hc, hfits, hfit]
        rfl
      rintro ⟨st', h, hr'⟩
      rw [List.flatMap_cons, Entry.chars, hnone, hc, List.nil_append, List.cons_append,
        List.cons_append] at h
      obtain ⟨k', more, hks, hne⟩ := continues_changes hr₂ hcontinues h hr'
      rw [List.append_assoc] at hks
      exact hne (List.cons.inj (List.append_cancel_left hks)).1.symm

/-! ## 4. Texts -/

/-- Signs with blanks are the signs of their text exactly if they are apart: the row from the
beginning of a text. -/
theorem exists_scan_iff_separated (s : Spread) :
    (∃ tokens, scan s.chars = .ok tokens ∧ tokens.map Token.kind = s.kinds ++ [.finish]) ↔
      s.Separated := by
  rw [Spread.Separated, isChain_iff_reads s.blank State.reads_start fun _ _ => Or.inl rfl,
    List.nil_append]
  constructor
  · rintro ⟨tokens, hscan, hkinds⟩
    obtain ⟨st, ks, hst, hr, hks⟩ := reads_of_scan hscan
    obtain rfl : ks = s.kinds := List.append_cancel_right (hks.symm.trans hkinds)
    exact ⟨st, hst, hr⟩
  · rintro ⟨st, hst, hr⟩
    exact scan_of_reads hst hr

/-- Signs that have a spelling, each with a space in front. -/
def spaced (ks : List TokenKind) (hks : ∀ k ∈ ks, k.Spellable) : Spread where
  entries := ks.pmap (fun k hk => ⟨[' '], k, List.forall_mem_singleton.mpr rfl, hk⟩) hks
  tail := []
  blank := by simp

/-- **Signs with spellings are those of a text**, the one in which each is spelled and a blank
stands between any two. -/
theorem exists_scan {ks : List TokenKind} (hks : ∀ k ∈ ks, k.Spellable) :
    ∃ (text : String) (tokens : List Token), scan text.toList = .ok tokens ∧
      tokens.map Token.kind = ks ++ [.finish] := by
  have hseparated : (spaced ks hks).Separated := by
    refine List.Pairwise.isChain (List.pairwise_of_forall_mem_list ?_)
    intro a _ b hb
    obtain ⟨k, -, rfl⟩ := List.mem_pmap.mp hb
    exact Or.inr (by simp)
  obtain ⟨tokens, hscan, hkinds⟩ := (exists_scan_iff_separated _).2 hseparated
  refine ⟨String.ofList (spaced ks hks).chars, tokens, by rwa [String.toList_ofList], ?_⟩
  simpa [spaced, Spread.kinds, List.map_pmap] using hkinds

/-- **The signs with a spelling are those of texts**, but for the end sign.  So to be spellable is
no condition that a scanned text could fail. -/
theorem spellable_iff_scanned (k : TokenKind) :
    k.Spellable ↔
      k ≠ .finish ∧ ∃ cs tokens, scan cs = .ok tokens ∧ k ∈ tokens.map Token.kind := by
  constructor
  · intro hk
    have hall : ∀ k' ∈ [k], k'.Spellable := by simpa using hk
    obtain ⟨text, tokens, hscan, hkinds⟩ := exists_scan hall
    exact ⟨by rintro rfl; exact hk, text.toList, tokens, hscan, by simp [hkinds]⟩
  · rintro ⟨hfinish, cs, tokens, hscan, hmem⟩
    obtain ⟨ks, hks, hspell⟩ := scan_spellable hscan
    rw [hks, List.mem_append, List.mem_singleton, or_iff_left hfinish] at hmem
    exact hspell k hmem

/-- **Blanks only separate.**  The signs that are found in texts are those with a spelling.  Spelled
with any blanks before, between and behind them, signs are scanned as they are, with the end sign
behind them, exactly if there is a blank between a word and a word, a word and a regex literal, and
`=` and `>`. -/
theorem blanks_only_separate :
    (∀ k : TokenKind, k.Spellable ↔
      k ≠ .finish ∧ ∃ cs tokens, scan cs = .ok tokens ∧ k ∈ tokens.map Token.kind) ∧
    (∀ s : Spread,
      (∃ tokens, scan s.chars = .ok tokens ∧ tokens.map Token.kind = s.kinds ++ [.finish]) ↔
        s.Separated) :=
  ⟨spellable_iff_scanned, exists_scan_iff_separated⟩

/-- No two signs of `Host ~/a/=>x` need a blank between them, and the words of `IP in` do, since
`IPin` is a single word. -/
theorem blanks_only_separate_words :
    ∃ s t : Spread,
      s.chars = "Host ~/a/=>x".toList ∧ s.Separated ∧
      (∃ tokens, scan s.chars = .ok tokens ∧
        tokens.map Token.kind = [.word "Host", .tilde, .regex "a", .arrow, .word "x", .finish]) ∧
      t.chars = "IPin".toList ∧ t.kinds = [.word "IP", .word "in"] ∧ ¬ t.Separated ∧
      ¬ ∃ tokens, scan t.chars = .ok tokens ∧
        tokens.map Token.kind = [.word "IP", .word "in", .finish] := by
  let s : Spread := ⟨[⟨[], .word "Host", by simp, by decide⟩,
    ⟨[' '], .tilde, by simp; rfl, trivial⟩,
    ⟨[], .regex "a", by simp, by decide⟩, ⟨[], .arrow, by simp, trivial⟩,
    ⟨[], .word "x", by simp, by decide⟩], [], by simp⟩
  let t : Spread := ⟨[⟨[], .word "IP", by simp, by decide⟩, ⟨[], .word "in", by simp, by decide⟩],
    [], by simp⟩
  have hs : s.Separated := by simp [s, Spread.Separated, Entry.Apart, TokenKind.fits]
  have ht : ¬ t.Separated := by simp [t, Spread.Separated, Entry.Apart, TokenKind.fits]
  exact ⟨s, t, rfl, hs, (blanks_only_separate.2 s).2 hs, rfl, rfl, ht,
    fun h => ht ((blanks_only_separate.2 t).1 h)⟩

/-- A word takes in the regex literal that stands right behind it. -/
example : (scan "Host~x/y/=>z".toList).map (·.map Token.kind) =
    .ok [.word "Host", .tilde, .word "x/y/", .arrow, .word "z", .finish] := rfl

end Scanner

end Turnstile
