/-
# A pattern between its anchors

A pattern is compiled alone, and once more in a group between anchors.  The second reading
goes through the same states as the first, with the group around them (`State.under`), up to
the end of the pattern (`run_closing`).

**The end of the pattern** is where the readings may part.  Either the closing text is still
there, and then the pattern leaves no backslash without a partner, or a comment of verbose
mode has taken the closing text, and then the group is never closed.  Since the type of
patterns holds both readings, only the first is left: the source of a pattern never ends with
half an escape (`openPair_source`).
-/
import Turnstile.Pattern
import Turnstile.Proofs.Pattern.Bracket

namespace Turnstile.Pattern

open Turnstile.Text

/-! ## 1. Repetition -/

theorem dropWhile_append {p : Char → Bool} {cs : List Char} (t : List Char)
    (h : cs.dropWhile p ≠ []) : (cs ++ t).dropWhile p = cs.dropWhile p ++ t := by
  rw [List.dropWhile_append, if_neg (by simpa using h)]

/-- A count that leaves something is the same with the closing text behind.  Without a rest the
digits could have gone on in the closing text, as far as the reader knows. -/
theorem count_append {verbose : Bool} {cs rest : List Char} {n : Nat}
    (h : count verbose cs = .ok (n, rest)) (hne : rest ≠ []) :
    count verbose (cs ++ closing) = .ok (n, rest ++ closing) ∧ rest <:+ cs := by
  cases hcollect : collect verbose Char.isDigit (cs.dropWhile isBlank) with
  | mk digits r =>
    simp only [count, hcollect] at h
    cases hn : decimal? digits with
    | none =>
      rw [hn] at h
      cases h
    | some m =>
      rw [hn] at h
      by_cases hlt : m < UInt32.size
      · simp only [if_pos hlt] at h
        obtain ⟨rfl, rfl⟩ := Prod.mk.inj (Except.ok.inj h)
        have hr : r ≠ [] := fun e => hne (by rw [e]; rfl)
        obtain ⟨happ, hsuf, -⟩ := collect_append closing hcollect hr
        have hdrop : cs.dropWhile isBlank ≠ [] := fun e => hr (List.suffix_nil.mp (e ▸ hsuf))
        refine ⟨?_, (List.dropWhile_suffix _).trans (hsuf.trans (List.dropWhile_suffix _))⟩
        simp only [count, dropWhile_append closing hdrop, happ, hn, if_pos hlt,
          dropWhile_append closing hne]
      · simp only [if_neg hlt] at h
        cases h

/-- The upper bound behind the comma. -/
def upper (verbose : Bool) (least : Nat) (cs : List Char) :
    Except Fault ((Nat × Option Nat) × List Char) :=
  match cs with
  | '}' :: rest => return ((least, none), rest)
  | rest => do match ← count verbose rest with
    | (most, '}' :: rest) =>
      if least ≤ most then return ((least, some most), rest) else throw .badRepetition
    | _ => throw .badRepetition

/-- The lower bound has been read. -/
def boundsFrom (verbose : Bool) (least : Nat) (cs : List Char) :
    Except Fault ((Nat × Option Nat) × List Char) :=
  match cs with
  | '}' :: rest => return ((least, some least), rest)
  | ',' :: rest => upper verbose least (skip verbose rest)
  | _ => throw .badRepetition

theorem bounds_eq (verbose : Bool) (cs : List Char) :
    bounds verbose cs =
      count verbose (skip verbose cs) >>= fun p => boundsFrom verbose p.1 p.2 := rfl

theorem upper_append {verbose : Bool} {least : Nat} {cs rest : List Char}
    {x : Nat × Option Nat} (h : upper verbose least cs = .ok (x, rest)) :
    upper verbose least (cs ++ closing) = .ok (x, rest ++ closing) ∧ '}' :: rest <:+ cs := by
  unfold upper at h
  split at h
  · obtain ⟨rfl, rfl⟩ := Prod.mk.inj (Except.ok.inj h)
    exact ⟨rfl, List.suffix_rfl⟩
  · next hbrace =>
    obtain ⟨⟨most, r⟩, hmost, h⟩ := bind_ok h
    split at h
    · next most' rest' heq =>
      obtain ⟨rfl, rfl⟩ := Prod.mk.inj heq
      obtain ⟨happ, hsuf⟩ := count_append hmost (by simp)
      by_cases hle : least ≤ most
      · rw [if_pos hle] at h
        obtain ⟨rfl, rfl⟩ := Prod.mk.inj (Except.ok.inj h)
        refine ⟨?_, hsuf⟩
        unfold upper
        split
        · next rest'' e =>
          obtain ⟨c, more, rfl⟩ := List.exists_cons_of_ne_nil
            (fun e => List.cons_ne_nil _ _ (List.suffix_nil.mp (e ▸ hsuf)) : cs ≠ [])
          exact absurd (by rw [(List.cons.inj e).1]) (hbrace more)
        · rw [happ]
          simp only [bind, Except.bind, List.cons_append, if_pos hle]
          rfl
      · rw [if_neg hle] at h
        cases h
    · cases h

theorem boundsFrom_append {verbose : Bool} {least : Nat} {cs rest : List Char}
    {x : Nat × Option Nat} (h : boundsFrom verbose least cs = .ok (x, rest)) :
    boundsFrom verbose least (cs ++ closing) = .ok (x, rest ++ closing) ∧ '}' :: rest <:+ cs := by
  unfold boundsFrom at h
  split at h
  · obtain ⟨rfl, rfl⟩ := Prod.mk.inj (Except.ok.inj h)
    exact ⟨rfl, List.suffix_rfl⟩
  · next more =>
    obtain ⟨happ, hend⟩ := upper_append h
    have hmore : skip verbose more ≠ [] := fun e =>
      List.cons_ne_nil _ _ (List.suffix_nil.mp (e ▸ hend))
    refine ⟨?_, hend.trans ((skip_suffix _ _).trans (List.suffix_cons ',' more))⟩
    simp only [boundsFrom, List.cons_append, skip_append closing hmore, happ]
  · cases h

/-- Repetition braces end with their own brace, so the closing text is never part of a count. -/
theorem bounds_append {verbose : Bool} {cs rest : List Char} {x : Nat × Option Nat}
    (h : bounds verbose cs = .ok (x, rest)) :
    bounds verbose (cs ++ closing) = .ok (x, rest ++ closing) ∧ '}' :: rest <:+ cs := by
  rw [bounds_eq] at h ⊢
  obtain ⟨⟨least, r⟩, hleast, h⟩ := bind_ok h
  obtain ⟨hfrom, hend⟩ := boundsFrom_append h
  have hr : r ≠ [] := fun e => List.cons_ne_nil _ _ (List.suffix_nil.mp (e ▸ hend))
  obtain ⟨hcount, hsuf⟩ := count_append hleast hr
  have hskip : skip verbose cs ≠ [] := fun e => hr (List.suffix_nil.mp (e ▸ hsuf))
  rw [skip_append closing hskip, hcount]
  exact ⟨hfrom, hend.trans (hsuf.trans (skip_suffix _ _))⟩

/-! ## 2. Groups -/

theorem groupName_append {taken : List (List Char)} {cs name rest : List Char}
    (h : groupName taken cs = .ok (name, rest)) :
    groupName taken (cs ++ closing) = .ok (name, rest ++ closing) ∧ '>' :: rest <:+ cs := by
  unfold groupName at h
  split at h
  · next first more d rest' hspan =>
    obtain ⟨happ, hcs, hstop⟩ := span_append closing hspan (by simp)
    obtain rfl : d = '>' := by simpa using hstop
    split at h
    · next hgood =>
      obtain ⟨rfl, rfl⟩ := Prod.mk.inj (Except.ok.inj h)
      refine ⟨?_, _, hcs.symm⟩
      simp only [groupName, happ, List.cons_append, if_pos hgood]
    · cases h
  · cases h

/-- A list of flags ends with its own sign, and begins neither a look-around nor a name.  The second
half is what keeps the reader of groups in the same branch. -/
theorem flagList_append : ∀ {cs rest : List Char} {flags flags' : Flags}
    {seen seen' : List Char} {value dangling : Bool} {sign : Char},
    flagList flags seen value dangling cs = .ok (flags', seen', sign, rest) →
    flagList flags seen value dangling (cs ++ closing) =
        .ok (flags', seen', sign, rest ++ closing) ∧
      sign ≠ '\\' ∧ sign :: rest <:+ cs
  | [], _, _, _, _, _, _, _, _, h => by cases h
  | c :: cs, rest, flags, flags', seen, seen', value, dangling, sign, h => by
    unfold flagList at h
    rw [List.cons_append, flagList]
    split at h
    · next hc =>
      rw [if_pos hc]
      split at h
      · cases h
      · next hd =>
        rw [if_neg hd]
        obtain ⟨rfl, rfl, rfl, rfl⟩ : flags = flags' ∧ seen = seen' ∧ c = sign ∧ cs = rest := by
          simpa using h
        refine ⟨rfl, ?_, List.suffix_rfl⟩
        rcases hc with rfl | rfl <;> decide
    · next hc =>
      rw [if_neg hc]
      split at h
      · cases h
      · next hseen =>
        rw [if_neg hseen]
        split at h
        · next hhyphen =>
          rw [if_pos hhyphen]
          obtain ⟨happ, hsign, hsuf⟩ := flagList_append h
          exact ⟨happ, hsign, hsuf.trans (List.suffix_cons c cs)⟩
        · next hhyphen =>
          rw [if_neg hhyphen]
          split at h
          · obtain ⟨happ, hsign, hsuf⟩ := flagList_append h
            exact ⟨happ, hsign, hsuf.trans (List.suffix_cons c cs)⟩
          · cases h

/-- The same state inside one more group. -/
def State.under (base : Frame) (st : State) : State :=
  { st with outer := st.outer ++ [base] }

/-- A group with a name. -/
def named (st : State) (cs : List Char) : Except Fault (State × List Char) := do
  let (name, rest) ← groupName st.names cs
  return ({ st.openGroup st.flags true with names := name :: st.names }, rest)

/-- A group with flags, or flags alone. -/
def flagged (st : State) (cs : List Char) : Except Fault (State × List Char) := do
  let (flags, seen, sign, rest) ← flagList st.flags [] true false cs
  if sign = ':' then return (st.openGroup flags false, rest)
  else if seen.isEmpty then throw .nothingToRepeat
  else
    return ({ st with flags, scope := { st.scope with items := .flags :: st.scope.items } }, rest)

/-- What stands behind the bracket and the question mark. -/
def special (st : State) (cs : List Char) : Except Fault (State × List Char) :=
  match cs with
  | '=' :: _ | '!' :: _ | '<' :: '=' :: _ | '<' :: '!' :: _ => .error .lookAround
  | 'P' :: '<' :: rest => named st rest
  | '<' :: rest => named st rest
  | rest => flagged st rest

theorem group_special {st : State} {cs more : List Char}
    (hs : skip st.flags.verbose cs = '?' :: more) : group st cs = special st more := by
  unfold special
  split <;> simp only [group, hs] <;> rfl

theorem special_named {st : State} {c : Char} (more : List Char) (he : c ≠ '=') (hb : c ≠ '!') :
    special st ('<' :: c :: more) = named st (c :: more) := by
  unfold special
  split
  case h_6 =>
    next e =>
      obtain ⟨-, rfl⟩ := List.cons.inj e
      rfl
  case h_3 => next e => exact absurd (List.cons.inj (List.cons.inj e).2).1 he
  case h_4 => next e => exact absurd (List.cons.inj (List.cons.inj e).2).1 hb
  case h_7 => next hname => exact absurd rfl (hname (c :: more))
  all_goals next e => cases e

theorem special_flagged {st : State} {c : Char} (more : List Char)
    (hc : c ∉ ['=', '!', '<', 'P']) : special st (c :: more) = flagged st (c :: more) := by
  unfold special
  split
  case h_7 => rfl
  all_goals
    next e =>
      obtain ⟨rfl, -⟩ := List.cons.inj e
      simp at hc

theorem group_plain {st : State} {cs : List Char}
    (hs : (skip st.flags.verbose cs).head? ≠ some '?') :
    group st cs = .ok (st.openGroup st.flags true, skip st.flags.verbose cs) := by
  unfold group
  dsimp only
  split
  case h_8 => rfl
  all_goals
    next e =>
      rw [e] at hs
      exact absurd rfl hs

/-! ## 3. Steps inside one more group -/

section Under

variable {st st' : State} {base : Frame} {cs rest : List Char}

theorem named_stops (h : named st cs = .ok (st', rest)) :
    Stops (named (st.under base)) false cs (st'.under base) rest := by
  obtain ⟨⟨name, r⟩, hname, h⟩ := bind_ok h
  obtain ⟨rfl, rfl⟩ := Prod.mk.inj (Except.ok.inj h)
  obtain ⟨happ, hsuf⟩ := groupName_append hname
  refine Stops.of_suffix hsuf (by decide) ?_
  rw [named, show (st.under base).names = st.names from rfl, happ]
  rfl

theorem flagged_stops (h : flagged st cs = .ok (st', rest)) :
    Stops (flagged (st.under base)) false cs (st'.under base) rest := by
  obtain ⟨⟨flags, seen, sign, r⟩, hlist, h⟩ := bind_ok h
  obtain ⟨happ, hsign, hsuf⟩ := flagList_append hlist
  dsimp only at h
  have hrest : r = rest ∧ flagged (st.under base) (cs ++ closing) =
      .ok (st'.under base, rest ++ closing) := by
    rw [flagged, show (st.under base).flags = st.flags from rfl, happ]
    simp only [bind, Except.bind]
    split at h
    · next hcolon =>
      obtain ⟨rfl, rfl⟩ := Prod.mk.inj (Except.ok.inj h)
      exact ⟨rfl, by rw [if_pos hcolon]; rfl⟩
    · next hcolon =>
      rw [if_neg hcolon]
      split at h
      · cases h
      · next hseen =>
        obtain ⟨rfl, rfl⟩ := Prod.mk.inj (Except.ok.inj h)
        exact ⟨rfl, by rw [if_neg hseen]; rfl⟩
  obtain ⟨rfl, hflagged⟩ := hrest
  exact Stops.of_suffix hsuf hsign hflagged

/-- What stands behind a question mark is told apart by its first two characters, which the
closing text does not change. -/
theorem special_stops (h : special st cs = .ok (st', rest)) :
    Stops (special (st.under base)) false cs (st'.under base) rest := by
  unfold special at h
  split at h
  · cases h
  · cases h
  · cases h
  · cases h
  · exact Stops.behind ['P', '<'] rfl (named_stops h)
  · next more he hb =>
    refine Stops.behind ['<'] ?_ (named_stops h)
    cases more with
    | nil => cases h
    | cons c more =>
      exact special_named _ (fun e => he more (by rw [e])) (fun e => hb more (by rw [e]))
  · next he hb _ _ _ hname =>
    refine Stops.behind [] ?_ (flagged_stops h)
    cases cs with
    | nil => cases h
    | cons c more =>
      refine special_flagged _ ?_
      intro hc
      simp only [List.mem_cons, List.not_mem_nil, or_false] at hc
      rcases hc with rfl | rfl | rfl | rfl
      · exact he more rfl
      · exact hb more rfl
      · exact hname more rfl
      · cases h

/-- Behind the bracket of a plain group only what means nothing is dropped.  In verbose mode that
may be a comment, and with it the whole closing text. -/
theorem group_stops (h : group st cs = .ok (st', rest)) :
    Stops (group (st.under base)) false cs (st'.under base) rest := by
  by_cases hmark : (skip st.flags.verbose cs).head? = some '?'
  · obtain ⟨more, hs⟩ := List.head?_eq_some_iff.mp hmark
    have hclosing : skip st.flags.verbose (cs ++ closing) = '?' :: (more ++ closing) := by
      rw [skip_append closing (by simp [hs]), hs, List.cons_append]
    rw [group_special hs] at h
    obtain ⟨u, r, verbose, hu, hopen, hrest, hf⟩ := @special_stops st _ base _ _ h
    obtain ⟨w, hw⟩ := skip_suffix st.flags.verbose cs
    refine ⟨w ++ ['?'] ++ u, r, verbose, ?_, ?_, hrest, ?_⟩
    · rw [← hw, hs, hu]
      simp
    · rw [openPair_append, openPair_concat (by decide), hopen]
    · rw [@group_special (st.under base) _ _ hclosing, hf]
  · rw [group_plain hmark] at h
    obtain ⟨rfl, rfl⟩ := Prod.mk.inj (Except.ok.inj h)
    refine ⟨[], cs, st.flags.verbose, rfl, rfl, rfl, ?_⟩
    rw [@group_plain (st.under base)]
    · rfl
    · show (skip st.flags.verbose (cs ++ closing)).head? ≠ some '?'
      rcases skip_closing st.flags.verbose cs with ⟨-, -, -, hskip⟩ | ⟨-, hskip⟩
      · rw [hskip]
        cases hs : skip st.flags.verbose cs with
        | nil => decide
        | cons c more =>
          rw [hs] at hmark
          exact hmark
      · rw [hskip]
        simp

theorem iterate_under {least : Nat} {most : Option Nat} (h : st.iterate least most = .ok st') :
    (st.under base).iterate least most = .ok (st'.under base) := by
  unfold State.iterate at h ⊢
  simp only [State.under]
  split at h
  · next r depth items hitems =>
    obtain rfl := Except.ok.inj h
    rfl
  · cases h

theorem closeGroup_under (h : st.closeGroup = .ok st') :
    (st.under base).closeGroup = .ok (st'.under base) := by
  unfold State.closeGroup at h ⊢
  simp only [State.under]
  split at h
  · cases h
  · next flags scope numbered outer houter =>
    obtain rfl := Except.ok.inj h
    simp only [houter, List.cons_append]

/-- A question mark behind a repetition is dropped or not, and the closing text begins with
none. -/
theorem dropLazy_stops (verbose : Bool) (w : List Char) (hw : openPair false w = false)
    {f : List Char → Except Fault (State × List Char)}
    (h : f (w ++ cs ++ closing) = .ok (st, dropLazy (skip verbose (cs ++ closing)))) :
    Stops f false (w ++ cs) st (dropLazy (skip verbose cs)) := by
  rcases skip_closing verbose cs with ⟨u, hu, hopen, hskip⟩ | ⟨hnil, hskip⟩
  · rw [hskip] at h
    cases hs : skip verbose cs with
    | nil =>
      rw [hs] at hu h
      exact Stops.of_rest (u := w ++ cs) (by simp [dropLazy])
        (by rw [hu, List.append_nil, openPair_append, hw, hopen]) h
    | cons c more =>
      rw [hs] at hu h
      by_cases hc : c = '?'
      · subst hc
        refine Stops.of_suffix (c := '?') ⟨w ++ u, ?_⟩ (by decide) h
        rw [hu]
        simp [dropLazy]
      · have hplain : ∀ ds, dropLazy (c :: ds) = c :: ds := by
          intro ds
          unfold dropLazy
          split
          · next e => exact absurd (List.cons.inj e).1 hc
          · rfl
        rw [List.cons_append, hplain] at h
        rw [hplain]
        refine Stops.of_rest (u := w ++ u) ?_ (by rw [openPair_append, hw, hopen]) h
        rw [hu, List.append_assoc]
  · rw [hskip] at h
    rw [hnil]
    refine ⟨w, cs, verbose, rfl, hw, hnil.symm, ?_⟩
    rw [h, hskip]
    rfl

/-- **One part of a pattern**, inside one more group and with the closing text behind.  The first
character is in front of the text. -/
theorem step_stops {c : Char} (h : step st c cs = .ok (st', rest)) :
    Stops (step (st.under base) c) (c == '\\') cs (st'.under base) rest := by
  unfold step at h
  split at h
  · exact Stops.behind [] rfl (group_stops h)
  · obtain ⟨st₁, hclose, h⟩ := bind_ok h
    obtain ⟨rfl, rfl⟩ := Prod.mk.inj (Except.ok.inj h)
    refine Stops.of_rest (u := []) rfl rfl ?_
    simp only [step, closeGroup_under hclose]
    rfl
  · obtain ⟨rfl, rfl⟩ := Prod.mk.inj (Except.ok.inj h)
    exact Stops.of_rest (u := []) rfl rfl rfl
  · obtain ⟨⟨s, r⟩, hread, h⟩ := bind_ok h
    obtain ⟨rfl, rfl⟩ := Prod.mk.inj (Except.ok.inj h)
    refine (Bracket.read_stops hread).map ?_
    intro r hr
    simp only [step, show (st.under base).flags = st.flags from rfl, hr]
    rfl
  · obtain ⟨st₁, hiterate, h⟩ := bind_ok h
    obtain ⟨rfl, rfl⟩ := Prod.mk.inj (Except.ok.inj h)
    refine dropLazy_stops false [] rfl ?_
    simp only [step, iterate_under hiterate]
    rfl
  · obtain ⟨st₁, hiterate, h⟩ := bind_ok h
    obtain ⟨rfl, rfl⟩ := Prod.mk.inj (Except.ok.inj h)
    refine dropLazy_stops false [] rfl ?_
    simp only [step, iterate_under hiterate]
    rfl
  · obtain ⟨st₁, hiterate, h⟩ := bind_ok h
    obtain ⟨rfl, rfl⟩ := Prod.mk.inj (Except.ok.inj h)
    refine dropLazy_stops false [] rfl ?_
    simp only [step, iterate_under hiterate]
    rfl
  · obtain ⟨⟨⟨least, most⟩, r⟩, hbounds, h⟩ := bind_ok h
    obtain ⟨st₁, hiterate, h⟩ := bind_ok h
    obtain ⟨rfl, rfl⟩ := Prod.mk.inj (Except.ok.inj h)
    obtain ⟨happ, w, hw⟩ := bounds_append hbounds
    have hcs : (w ++ ['}']) ++ r = cs := by rw [← hw]; simp
    rw [← hcs] at happ ⊢
    refine dropLazy_stops st.flags.verbose _ (openPair_concat (by decide)) ?_
    simp only [step, show (st.under base).flags = st.flags from rfl, happ, bind, Except.bind,
      iterate_under hiterate]
    rfl
  · obtain ⟨⟨a, r⟩, hread, h⟩ := bind_ok h
    obtain ⟨rfl, rfl⟩ := Prod.mk.inj (Except.ok.inj h)
    refine (Escape.read_stops hread).map ?_
    intro r hr
    simp only [step, show (st.under base).flags = st.flags from rfl, hr]
    cases a <;> rfl
  · obtain ⟨s, hdot, h⟩ := bind_ok h
    obtain ⟨rfl, rfl⟩ := Prod.mk.inj (Except.ok.inj h)
    refine Stops.of_rest (u := []) rfl rfl ?_
    simp only [step, show (st.under base).flags = st.flags from rfl, hdot]
    rfl
  · obtain ⟨rfl, rfl⟩ := Prod.mk.inj (Except.ok.inj h)
    exact Stops.of_rest (u := []) rfl rfl rfl
  · obtain ⟨rfl, rfl⟩ := Prod.mk.inj (Except.ok.inj h)
    exact Stops.of_rest (u := []) rfl rfl rfl
  · next hb _ _ _ =>
    obtain ⟨rfl, rfl⟩ := Prod.mk.inj (Except.ok.inj h)
    refine Stops.of_rest (u := []) rfl (by simpa [openPair] using hb) ?_
    simp only [step]
    rfl

end Under

/-! ## 4. The end of a pattern -/

theorem skip_closing_self (verbose : Bool) : skip verbose closing = closing := by
  cases verbose <;> decide

/-- A group that is open at the end of the text is an error.  So the second reading fails if the
closing text has been taken for a comment. -/
theorem run_under_nil (base : Frame) (st : State) :
    ∀ fuel, run fuel (st.under base) [] = .error .openGroup
  | 0 => rfl
  | fuel + 1 => by
    have hopen : (st.under base).outer.isEmpty = false := by simp [State.under]
    simp only [run, List.suffix_nil.mp (skip_suffix (st.under base).flags.verbose []), hopen]
    rfl

/-- **Two readings of a pattern.**  Inside one more group and with the closing text behind, a
pattern is read as it is alone, up to the closing text; unless a comment takes that, which leaves
the group open.  By induction on the steps of the reading alone. -/
theorem run_closing {base : Frame} : ∀ {fuel : Nat} {st st' : State} {cs : List Char},
    run fuel st cs = .ok st' →
    (openPair false cs = false ∧ ∃ n, ∀ fuel',
      run (n + fuel' + 1) (st.under base) (cs ++ closing) =
        run (fuel' + 1) (st'.under base) closing) ∨
    ∀ fuel', run fuel' (st.under base) (cs ++ closing) = .error .openGroup
  | 0, st, st', cs, h => by cases h
  | fuel + 1, st, st', cs, h => by
    have hflags : (st.under base).flags = st.flags := rfl
    have hopen : (st.under base).outer.isEmpty = false := by simp [State.under]
    rcases skip_closing st.flags.verbose cs with ⟨u, hu, hclosed, hskip⟩ | ⟨hnil, hskip⟩
    · cases hs : skip st.flags.verbose cs with
      | nil =>
        rw [hs] at hu hskip
        have hst : st = st' := by
          simp only [run, hs] at h
          split at h
          · exact Except.ok.inj h
          · cases h
        subst hst
        rw [List.append_nil] at hu
        refine Or.inl ⟨by rw [hu]; exact hclosed, 0, ?_⟩
        intro fuel'
        rw [Nat.zero_add]
        simp only [run, hflags, hskip, skip_closing_self, List.nil_append]
      | cons c more =>
        rw [hs] at hu hskip
        simp only [run, hs] at h
        obtain ⟨⟨st₁, rest⟩, hstep, h⟩ := bind_ok h
        rcases (@step_stops _ _ base _ _ _ hstep).ends with
          ⟨hunder, w, hw, hpair⟩ | ⟨rfl, hunder⟩
        · have hrun : ∀ k, run (k + 1) (st.under base) (cs ++ closing) =
              run k (st₁.under base) (rest ++ closing) := by
            intro k
            simp only [run, hflags, hskip, List.cons_append, hunder]
            rfl
          rcases @run_closing base _ _ _ _ h with ⟨hrest, n, hn⟩ | hrest
          · refine Or.inl ⟨?_, n + 1, ?_⟩
            · rw [hu, hw, openPair_append, hclosed]
              simp only [openPair, Bool.not_false, Bool.true_and]
              rw [openPair_append, hpair, hrest]
            · intro fuel'
              rw [show n + 1 + fuel' + 1 = n + fuel' + 1 + 1 by omega, hrun, hn]
          · refine Or.inr ?_
            intro fuel'
            cases fuel' with
            | zero => rfl
            | succ k => rw [hrun, hrest]
        · refine Or.inr ?_
          intro fuel'
          cases fuel' with
          | zero => rfl
          | succ k =>
            simp only [run, hflags, hskip, List.cons_append, hunder]
            exact run_under_nil base st₁ k
    · refine Or.inr ?_
      intro fuel'
      cases fuel' with
      | zero => rfl
      | succ k =>
        simp only [run, hflags, hskip, hopen]
        rfl

/-- What has been read when the pattern begins: the first anchor, and then a group. -/
def front : Frame := ⟨{}, { items := [.part (.look .textStart) 0] }, false⟩

/-- The reading between anchors reaches the pattern in two steps: one for the first anchor, and one
for the bracket of the group. -/
theorem run_anchored (fuel : Nat) (cs : List Char) :
    run (fuel + 2) {} (anchored cs) = run fuel (({} : State).under front) (cs ++ closing) := rfl

theorem length_anchored (cs : List Char) : (anchored cs).length = cs.length + 8 := by
  show (['\\', 'A', '(', '?', ':'] ++ cs ++ closing).length = cs.length + 8
  simp only [List.length_append, List.length_cons, closing, List.length_nil]
  omega

/-- A text that compiles is read to its end, and the tree of the reading is what is compiled.  The
fuel is one more than the text is long, since each round takes a character. -/
theorem run_of_compile {cs : List Char} {r : Regex} (h : compile cs = .ok r) :
    ∃ st, run (cs.length + 1) {} cs = .ok st ∧ st.scope.tree.regex = r := by
  obtain ⟨_, hread, hsize⟩ := bind_ok h
  obtain ⟨st, hrun, hdepth⟩ := bind_ok hread
  refine ⟨st, hrun, ?_⟩
  dsimp only at hdepth hsize
  split at hdepth
  · cases hdepth
  · cases hdepth
    split at hsize
    · cases hsize
    · exact Except.ok.inj hsize

/-- The reading between anchors starts inside the group, with seven signs more than the pattern. -/
theorem exists_run_under (p : Pattern) : ∃ st, st.scope.tree.regex = p.regex ∧
    run (p.source.toList.length + 7) (({} : State).under front) (p.source.toList ++ closing) =
      .ok st := by
  obtain ⟨st, hrun, hregex⟩ := run_of_compile p.compiled
  have hlen : (anchored p.source.toList).length + 1 = (p.source.toList.length + 7) + 2 := by
    rw [length_anchored]
  rw [hlen, run_anchored] at hrun
  exact ⟨st, hregex, hrun⟩

/-- **Both readings of a pattern end with its source**, which leaves no backslash without a partner:
the closing text is not taken by a comment, since the group is closed in the end. -/
theorem exists_run_source (p : Pattern) : ∃ st n,
    compile p.source.toList = .ok st.scope.tree.regex ∧
    run (p.source.toList.length + 1) {} p.source.toList = .ok st ∧
    openPair false p.source.toList = false ∧
    ∀ fuel, run (n + fuel + 1) (({} : State).under front) (p.source.toList ++ closing) =
      run (fuel + 1) (st.under front) closing := by
  obtain ⟨r, halone⟩ : ∃ r, compile p.source.toList = .ok r := by
    cases hc : compile p.source.toList with
    | error e =>
      have halone := p.alone
      rw [hc] at halone
      cases halone
    | ok r => exact ⟨r, rfl⟩
  obtain ⟨st, hrun, rfl⟩ := run_of_compile halone
  rcases @run_closing front _ _ _ _ hrun with ⟨hclosed, n, hn⟩ | hopen
  · exact ⟨st, n, halone, hrun, hclosed, hn⟩
  · obtain ⟨st', -, hrun'⟩ := exists_run_under p
    rw [hopen] at hrun'
    cases hrun'

/-- **The source of a pattern leaves no backslash without a partner.**  Alone it would be half
an escape; at the end of a comment it would keep the group between the anchors open. -/
theorem openPair_source (p : Pattern) : openPair false p.source.toList = false := by
  obtain ⟨_, _, -, -, hclosed, -⟩ := exists_run_source p
  exact hclosed

end Turnstile.Pattern
