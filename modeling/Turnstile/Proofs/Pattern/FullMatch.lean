/-
# A pattern matches values as a whole

Between its anchors a pattern is the same expression as alone, with an assertion on either side
(`regex_eq`).  The reading of the pattern ends where the closing text begins (`run_closing`), so the
group is closed by the closing text and by nothing else: neither alternation nor brackets nor flags
nor comments of the source reach beyond it.

With that, and with a search that finds what there is (`Regex.isMatch_iff`), `full_match_iff` says
what a pattern matches: **the values that its source, read alone, spans from end to end**.  No part
of a value that is shorter ever matches.
-/
import Mathlib
import Turnstile.Proofs.Pattern.Anchors
import Turnstile.Proofs.Pattern.Search

namespace Turnstile.Pattern

/-! ## 1. The reading behind the pattern -/

/-- A reading that succeeds does so with more fuel.  The two readings have texts of different
lengths, and so fuel of different amounts. -/
theorem run_mono {fuel : Nat} {st st' : State} {cs : List Char} (h : run fuel st cs = .ok st')
    (more : Nat) : run (fuel + more) st cs = .ok st' := by
  induction fuel generalizing st cs with
  | zero => cases h
  | succ fuel ih =>
    rw [Nat.succ_add_eq_add_succ, Nat.add_succ]
    cases hskip : skip st.flags.verbose cs with
    | nil =>
      simp only [run, hskip] at h ⊢
      exact h
    | cons c cs =>
      simp only [run, hskip] at h ⊢
      obtain ⟨⟨st₁, rest⟩, hstep, hrest⟩ := bind_ok h
      rw [hstep]
      exact ih hrest

/-- At the end of a reading all groups are closed, since an open one is an error there. -/
theorem outer_of_run {fuel : Nat} {st st' : State} {cs : List Char} (h : run fuel st cs = .ok st') :
    st'.outer = [] := by
  induction fuel generalizing st cs with
  | zero => cases h
  | succ fuel ih =>
    cases hskip : skip st.flags.verbose cs with
    | nil =>
      simp only [run, hskip] at h
      split at h
      · next hempty =>
        cases h
        exact List.isEmpty_iff.1 hempty
      · cases h
    | cons c cs =>
      simp only [run, hskip] at h
      obtain ⟨⟨st₁, rest⟩, -, hrest⟩ := bind_ok h
      exact ih hrest

/-- The state behind both anchors, where the group holds the tree of the pattern. -/
def behind (t : Tree) (names : List (List Char)) : State :=
  { scope := { items := [.part (.look .textEnd) 0, .part t.regex (t.depth + 1),
      .part (.look .textStart) 0] }
    names }

/-- **The closing text closes the group around the pattern**, and with it the flags of the pattern
are gone. -/
theorem run_closing_text {st : State} (h : st.outer = []) (fuel : Nat) :
    run (fuel + 3) (st.under front) closing = .ok (behind st.scope.tree st.names) := by
  obtain ⟨flags, scope, outer, names⟩ := st
  obtain rfl : outer = [] := h
  have hskip : skip flags.verbose closing = closing := skip_closing_self _
  rw [run]
  simp only [State.under, hskip]
  rfl

/-! ## 2. The tree of a pattern -/

/-- An expression between the anchors of a text. -/
def between (r : Regex) : Regex :=
  .seq (.look .textStart) (.seq r (.look .textEnd))

/-- **A pattern is its source between anchors.**  The two readings of the pattern part at the
closing text, and enough fuel brings the second one behind it. -/
theorem exists_compile_between (p : Pattern) :
    ∃ r, compile p.source.toList = .ok r ∧ p.regex = between r := by
  obtain ⟨st, n, hcompile, hrun, -, hreach⟩ := exists_run_source p
  obtain ⟨st', hregex, hrun'⟩ := exists_run_under p
  refine ⟨_, hcompile, ?_⟩
  have hlong : run (n + (p.source.toList.length + 8) + 1) (({} : State).under front)
      (p.source.toList ++ closing) = .ok st' := by
    have hfuel : n + (p.source.toList.length + 8) + 1 = p.source.toList.length + 7 + (n + 2) := by
      omega
    rw [hfuel]
    exact run_mono hrun' (n + 2)
  rw [hreach, run_closing_text (outer_of_run hrun) (p.source.toList.length + 6)] at hlong
  rw [← hregex, ← Except.ok.inj hlong]
  rfl

/-! ## 3. Matches -/

/-- Between anchors only the whole text is left to match.  The anchors are those of the text and not
of its lines, whatever the flags inside the pattern. -/
theorem spans_between_iff {text : List Char} {r : Regex} {i j : Nat} :
    (between r).Spans text i j ↔ i = 0 ∧ j = text.length ∧ r.Spans text 0 text.length := by
  have hstart : ∀ i ≤ text.length, Look.textStart.holdsAt text i = true ↔ i = 0 := by
    intro i hi
    cases i with
    | zero => simp [Look.holdsAt, Look.holds]
    | succ i => simp [Look.holdsAt, Look.holds, Nat.not_le.2 hi]
  have hend : ∀ j ≤ text.length, Look.textEnd.holdsAt text j = true ↔ j = text.length := by
    intro j hj
    rw [Look.holdsAt, Look.holds, Option.isNone_iff_eq_none, List.getElem?_eq_none_iff]
    omega
  simp only [between, Regex.Spans]
  constructor
  · rintro ⟨_, ⟨hi, rfl, hlook⟩, _, hspans, hj, rfl, hlook'⟩
    obtain rfl := (hstart _ hi).1 hlook
    obtain rfl := (hend _ hj).1 hlook'
    exact ⟨rfl, rfl, hspans⟩
  · rintro ⟨rfl, rfl, hspans⟩
    exact ⟨0, ⟨Nat.zero_le _, rfl, (hstart 0 (Nat.zero_le _)).2 rfl⟩, _, hspans, Nat.le_refl _, rfl,
      (hend _ (Nat.le_refl _)).2 rfl⟩

/-- **No pattern escapes its anchors.**  The source of a pattern compiles alone, and the pattern
matches exactly the values that the source, alone, spans from the first character to the last.
Whatever part of a value the pattern itself spans is the whole value. -/
theorem full_match_iff {source : String} {p : Pattern} (h : ofSource source = .ok p) :
    ∃ r, compile source.toList = .ok r ∧
      (∀ value : String, p.isFullMatch value = true ↔
        r.Spans value.toList 0 value.toList.length) ∧
      (∀ (value : String) (i j : Nat), p.regex.Spans value.toList i j ↔
        i = 0 ∧ j = value.toList.length ∧ r.Spans value.toList 0 value.toList.length) := by
  obtain ⟨r, hcompile, hregex⟩ := exists_compile_between p
  rw [source_ofSource h] at hcompile
  have hspans : ∀ (value : String) (i j : Nat), p.regex.Spans value.toList i j ↔
      i = 0 ∧ j = value.toList.length ∧ r.Spans value.toList 0 value.toList.length := by
    intro value i j
    rw [hregex, spans_between_iff]
  refine ⟨r, hcompile, fun value => ?_, hspans⟩
  rw [isFullMatch, Regex.isMatch_iff]
  simp only [hspans, exists_and_left, exists_eq_left]

/-- An alternative, flags in one of its branches and a comment at the end: `bc` is spanned, and `ab`
is matched nowhere, though `a` is. -/
theorem full_match_iff_commented :
    ∃ p r, ofSource "a|(?x) b c # d\n" = .ok p ∧ compile "a|(?x) b c # d\n".toList = .ok r ∧
      r.Spans "bc".toList 0 2 ∧ r.Spans "a".toList 0 1 ∧
      ∀ i j, ¬ p.regex.Spans "ab".toList i j := by
  have hvalues : (ofSource "a|(?x) b c # d\n").toOption.map (fun p =>
      (p.isFullMatch "bc", p.isFullMatch "a", p.isFullMatch "ab")) = some (true, true, false) := rfl
  cases hp : ofSource "a|(?x) b c # d\n" with
  | error e =>
    rw [hp] at hvalues
    cases hvalues
  | ok p =>
    obtain ⟨r, hcompile, hmatch, hspans⟩ := full_match_iff hp
    rw [hp] at hvalues
    obtain ⟨hbc, ha, hab⟩ : p.isFullMatch "bc" = true ∧ p.isFullMatch "a" = true ∧
        p.isFullMatch "ab" = false := by simpa [Except.toOption] using hvalues
    refine ⟨p, r, rfl, hcompile, (hmatch "bc").1 hbc, (hmatch "a").1 ha, fun i j h => ?_⟩
    have hwhole := (hmatch "ab").2 ((hspans "ab" i j).1 h).2.2
    exact absurd (hwhole.symm.trans hab) (by decide)

end Turnstile.Pattern
