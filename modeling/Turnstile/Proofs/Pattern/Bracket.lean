/-
# Where classes stop

A bracketed class ends with its own closing bracket, so between the brackets there is
always a next character, and the text behind the class is never looked at: what is read of
a text inside brackets is the same with the closing text behind (`close_append`).

Two readers look ahead without taking what they see: `peek`, for a hyphen that may make a
range, and the reader of named sets, which gives up if it meets no `:]`.  The closing text
begins with a parenthesis and holds neither, so it changes neither answer.
-/
import Turnstile.Pattern.Bracket
import Turnstile.Proofs.Pattern.Escape

namespace Turnstile.Pattern

open Turnstile.Text

/-! ## 1. Looking ahead -/

theorem peek_go_append (t : List Char) : ∀ (passed : Bool) (cs : List Char) {c : Char},
    peek.go passed cs = some c → peek.go passed (cs ++ t) = some c
  | _, [], _, h => by cases h
  | passed, d :: cs, c, h => by
    simp only [peek.go, List.cons_append] at h ⊢
    by_cases hb : isBlank d = true
    · simp only [if_pos hb] at h ⊢
      exact peek_go_append t passed cs h
    · by_cases hn : (d == '#' && !passed) = true
      · simp only [if_neg hb, if_pos hn] at h ⊢
        exact peek_go_append t true cs h
      · simp only [if_neg hb, if_neg hn] at h ⊢
        exact h

/-- A character that is seen ahead is seen whatever is behind it.  If none is seen, the closing text
may show one, which is the case that the lemmas below have to exclude. -/
theorem peek_append {verbose : Bool} {cs : List Char} {c : Char} (t : List Char)
    (h : peek verbose cs = some c) : peek verbose (cs ++ t) = some c := by
  cases verbose with
  | true => exact peek_go_append t false cs h
  | false =>
    cases cs with
    | nil => cases h
    | cons d cs => exact h

/-- Behind the first number sign, what hides the next character is blank.  Looking ahead passes one
such sign only, while dropping what means nothing passes all of them. -/
theorem skipVerbose_of_blank : ∀ (comment : Bool) (cs : List Char),
    peek.go true cs = none → skipVerbose comment cs = []
  | comment, [], _ => by cases comment <;> rfl
  | comment, c :: cs, h => by
    simp only [peek.go, Bool.not_true, Bool.and_false, Bool.false_eq_true, if_false] at h
    by_cases hb : isBlank c = true
    · rw [if_pos hb] at h
      cases comment with
      | true => exact skipVerbose_of_blank (c != '\n') cs h
      | false =>
        rw [skipVerbose, if_pos hb]
        exact skipVerbose_of_blank false cs h
    · rw [if_neg hb] at h
      cases h

theorem skipVerbose_of_go : ∀ {cs : List Char}, peek.go false cs = none →
    skipVerbose false cs = []
  | [], _ => rfl
  | c :: cs, h => by
    simp only [peek.go, Bool.not_false, Bool.and_true, beq_iff_eq] at h
    by_cases hb : isBlank c = true
    · rw [if_pos hb] at h
      rw [skipVerbose, if_pos hb]
      exact skipVerbose_of_go h
    · rw [if_neg hb] at h
      by_cases hn : c = '#'
      · rw [if_pos hn] at h
        rw [skipVerbose, if_neg hb, if_pos hn]
        exact skipVerbose_of_blank true cs h
      · rw [if_neg hn] at h
        cases h

/-- Where no character is seen ahead, none is left.  A reader that goes on has therefore seen a
character that is really there. -/
theorem skip_of_peek {verbose : Bool} {cs : List Char} (h : peek verbose cs = none) :
    skip verbose cs = [] := by
  cases verbose with
  | true => exact skipVerbose_of_go h
  | false => exact List.head?_eq_none_iff.mp h

namespace Bracket

/-! ## 2. Named sets -/

/-- The name of a set up to its closing signs. -/
def posixName (f : Flags) (negated : Bool) (cs : List Char) :
    Option (Except Fault CharSet × List Char) :=
  match cs.span (· != ':') with
  | (name, ':' :: ']' :: rest) =>
    (CharSet.posix? (String.ofList name)).map fun s => (f.negate negated (f.fold s), rest)
  | _ => none

theorem posix?_negated (f : Flags) (cs : List Char) :
    posix? f (':' :: '^' :: cs) = posixName f true cs := rfl

theorem posix?_plain (f : Flags) : ∀ {cs : List Char}, cs.head? ≠ some '^' →
    posix? f (':' :: cs) = posixName f false cs
  | [], _ => rfl
  | c :: cs, h => by
    have hc : c ≠ '^' := by simpa using h
    -- with this in sight `simp` sees which branch is taken
    have hne : ∀ rest, c :: cs = '^' :: rest → False := fun rest e => hc (List.cons.inj e).1
    simp only [posix?]
    rfl

/-- A name is not completed by the closing text, which holds no colon and begins with no
bracket. -/
theorem posixName_append (f : Flags) (negated : Bool) (cs : List Char) :
    posixName f negated (cs ++ closing) =
      (posixName f negated cs).map fun (s, rest) => (s, rest ++ closing) := by
  cases hspan : cs.span (· != ':') with
  | mk name behind =>
    cases behind with
    | nil =>
      have hall : (cs ++ closing).dropWhile (· != ':') = [] := by
        rw [List.span_eq_takeWhile_dropWhile] at hspan
        rw [List.dropWhile_append, (Prod.mk.inj hspan).2]
        rfl
      simp only [posixName, hspan, List.span_eq_takeWhile_dropWhile, hall]
      rfl
    | cons c more =>
      have happ := (span_append closing hspan (by simp)).1
      simp only [posixName, hspan, happ, List.cons_append]
      split
      · next name' rest heq =>
        obtain ⟨rfl, hcs⟩ := Prod.mk.inj heq
        obtain ⟨rfl, hmore⟩ := List.cons.inj hcs
        cases more with
        | nil => cases hmore
        | cons d more =>
          obtain ⟨rfl, rfl⟩ := List.cons.inj hmore
          simp only [Option.map_map]
          rfl
      · next hno =>
        split
        · next name' rest heq =>
          obtain ⟨rfl, hcs⟩ := Prod.mk.inj heq
          obtain ⟨rfl, rfl⟩ := List.cons.inj hcs
          exact absurd rfl (hno name (rest ++ closing))
        · rfl

/-- **A named set is the same with the closing text behind**, and so is the answer that
there is none. -/
theorem posix?_append (f : Flags) (cs : List Char) :
    posix? f (cs ++ closing) = (posix? f cs).map fun (s, rest) => (s, rest ++ closing) := by
  cases cs with
  | nil => rfl
  | cons c cs =>
    by_cases hc : c = ':'
    · subst hc
      by_cases hn : cs.head? = some '^'
      · obtain ⟨cs, rfl⟩ := List.head?_eq_some_iff.mp hn
        rw [List.cons_append, List.cons_append, posix?_negated, posix?_negated,
          posixName_append]
      · have hn' : (cs ++ closing).head? ≠ some '^' := by
          cases cs with
          | nil => decide
          | cons d cs => exact hn
        rw [List.cons_append, posix?_plain f hn', posix?_plain f hn, posixName_append]
    · have hnone : ∀ ds, posix? f (c :: ds) = none := by
        intro ds
        unfold posix?
        split
        · next e => exact absurd (List.cons.inj e).1 hc
        · rfl
      rw [List.cons_append, hnone, hnone]
      rfl

theorem posixName_suffix {f : Flags} {negated : Bool} {cs rest : List Char}
    {s : Except Fault CharSet} (h : posixName f negated cs = some (s, rest)) : rest <:+ cs := by
  unfold posixName at h
  split at h
  · next name rest' hspan =>
    obtain ⟨s', -, heq⟩ := Option.map_eq_some_iff.mp h
    obtain ⟨-, rfl⟩ := Prod.mk.inj heq
    obtain ⟨-, hcs, -⟩ := span_append [] hspan (by simp)
    exact ⟨name ++ [':', ']'], by rw [hcs]; simp⟩
  · cases h

theorem posix?_suffix {f : Flags} {cs rest : List Char} {s : Except Fault CharSet}
    (h : posix? f cs = some (s, rest)) : rest <:+ cs := by
  cases cs with
  | nil => cases h
  | cons c cs =>
    by_cases hc : c = ':'
    · subst hc
      by_cases hn : cs.head? = some '^'
      · obtain ⟨cs, rfl⟩ := List.head?_eq_some_iff.mp hn
        rw [posix?_negated] at h
        exact (posixName_suffix h).trans (List.suffix_append [':', '^'] cs)
      · rw [posix?_plain f hn] at h
        exact (posixName_suffix h).trans (List.suffix_cons ':' cs)
    · unfold posix? at h
      split at h
      · next e => exact absurd (List.cons.inj e).1 hc
      · cases h

/-! ## 3. Members -/

theorem atom_stops {f : Flags} {cs rest : List Char} {a : Atom} (h : atom f cs = .ok (a, rest)) :
    Stops (atom f) false cs a rest := by
  cases cs with
  | nil => cases h
  | cons c cs =>
    by_cases hc : c = '\\'
    · subst hc
      exact Stops.behind ['\\'] rfl (Escape.read_stops h)
    · have hatom : ∀ ds, atom f (c :: ds) = .ok (.char c, ds) := by
        intro ds
        unfold atom
        split
        · next e => cases e
        · next e => exact absurd (List.cons.inj e).1 hc
        · next e =>
          obtain ⟨rfl, rfl⟩ := List.cons.inj e
          rfl
      rw [hatom] at h
      obtain ⟨rfl, rfl⟩ := Prod.mk.inj (Except.ok.inj h)
      exact Stops.of_rest (u := [c]) rfl (@openPair_concat [] c hc) (hatom _)

/-- The second half of a member or a range, from where its first end is read. -/
def rangeFrom (f : Flags) (first : Atom) (cs : List Char) : Except Fault (CharSet × List Char) :=
  match cs with
  | [] => throw .badClass
  | '-' :: behind => do
    if peek f.verbose behind == some ']' || peek f.verbose behind == some '-' then
      return (← single f first, '-' :: behind)
    let (last, rest) ← atom f (skip f.verbose behind)
    let low ← bound f first
    let high ← bound f last
    if high < low then throw .badRange
    return (.range low high, rest)
  | rest => do return (← single f first, rest)

theorem range_eq (f : Flags) (cs : List Char) :
    range f cs = atom f cs >>= fun p => rangeFrom f p.1 (skip f.verbose p.2) := rfl

theorem rangeFrom_single {f : Flags} {c : Char} (first : Atom) (cs : List Char) (hc : c ≠ '-') :
    rangeFrom f first (c :: cs) = do return (← single f first, c :: cs) := by
  unfold rangeFrom
  split
  · next e => cases e
  · next e => exact absurd (List.cons.inj e).1 hc
  · rfl

theorem rangeFrom_append {f : Flags} {first : Atom} {cs rest : List Char} {s : CharSet}
    (h : rangeFrom f first cs = .ok (s, rest)) (hne : rest ≠ []) :
    rangeFrom f first (cs ++ closing) = .ok (s, rest ++ closing) ∧ rest <:+ cs := by
  cases cs with
  | nil => cases h
  | cons c behind =>
    by_cases hc : c = '-'
    · subst hc
      simp only [rangeFrom, List.cons_append] at h ⊢
      -- the end of the text is not seen from here: an end of the range has to follow
      have hpeek : ∃ d, peek f.verbose behind = some d := by
        cases hp : peek f.verbose behind with
        | some d => exact ⟨d, rfl⟩
        | none =>
          rw [hp, skip_of_peek hp] at h
          cases h
      obtain ⟨d, hd⟩ := hpeek
      rw [hd] at h
      rw [peek_append closing hd]
      by_cases hedge : (some d == some ']' || some d == some '-') = true
      · rw [if_pos hedge] at h ⊢
        obtain ⟨s', hs, h⟩ := bind_ok h
        obtain ⟨rfl, rfl⟩ := Prod.mk.inj (Except.ok.inj h)
        exact ⟨by rw [hs]; rfl, List.suffix_rfl⟩
      · rw [if_neg hedge] at h ⊢
        obtain ⟨⟨last, r⟩, hlast, h⟩ := bind_ok h
        obtain ⟨low, hlow, h⟩ := bind_ok h
        obtain ⟨high, hhigh, h⟩ := bind_ok h
        by_cases hlt : high < low
        · simp only [if_pos hlt] at h
          cases h
        · simp only [if_neg hlt] at h
          obtain ⟨rfl, rfl⟩ := Prod.mk.inj (Except.ok.inj h)
          obtain ⟨hatom, hsuf⟩ := (atom_stops hlast).append hne
          have hskip : skip f.verbose behind ≠ [] := by
            intro e
            rw [e] at hlast
            cases hlast
          refine ⟨?_, (hsuf.trans (skip_suffix _ _)).trans (List.suffix_cons '-' behind)⟩
          rw [skip_append closing hskip, hatom]
          simp only [bind, Except.bind, hlow, hhigh, if_neg hlt]
          rfl
    · rw [rangeFrom_single _ _ hc] at h
      obtain ⟨s', hs, h⟩ := bind_ok h
      obtain ⟨rfl, rfl⟩ := Prod.mk.inj (Except.ok.inj h)
      rw [List.cons_append, rangeFrom_single _ _ hc, hs]
      exact ⟨rfl, List.suffix_rfl⟩

/-- A member or a range that leaves something is the same with the closing text behind: the hyphen
that makes a range is looked for in what is left. -/
theorem range_append {f : Flags} {cs rest : List Char} {s : CharSet}
    (h : range f cs = .ok (s, rest)) (hne : rest ≠ []) :
    range f (cs ++ closing) = .ok (s, rest ++ closing) ∧ rest <:+ cs := by
  rw [range_eq] at h ⊢
  obtain ⟨⟨first, r⟩, hfirst, h⟩ := bind_ok h
  -- what is left of the first member goes on with a character
  have hskip : skip f.verbose r ≠ [] := by
    intro e
    rw [e] at h
    cases h
  have hr : r ≠ [] := fun e => hskip (by rw [e]; cases f.verbose <;> rfl)
  obtain ⟨hatom, hsuf⟩ := (atom_stops hfirst).append hr
  obtain ⟨hfrom, hrest⟩ := rangeFrom_append h hne
  refine ⟨?_, hrest.trans ((skip_suffix _ _).trans hsuf)⟩
  rw [hatom]
  exact (congrArg (rangeFrom f first) (skip_append closing hskip)).trans hfrom

/-! ## 4. Heads of classes -/

/-- The sign that negates a class. -/
def caret (f : Flags) (cs : List Char) : Bool × List Char :=
  match skip f.verbose cs with
  | '^' :: cs => (true, skip f.verbose cs)
  | cs => (false, cs)

theorem caret_append {f : Flags} {cs : List Char} (h : (caret f cs).2 ≠ []) :
    caret f (cs ++ closing) = ((caret f cs).1, (caret f cs).2 ++ closing) ∧
      (caret f cs).2 <:+ cs := by
  cases hs : skip f.verbose cs with
  | nil =>
    simp only [caret, hs] at h
    exact absurd rfl h
  | cons c more =>
    have hclosing : skip f.verbose (cs ++ closing) = c :: (more ++ closing) := by
      rw [skip_append closing (by simp [hs]), hs, List.cons_append]
    have hsuf : c :: more <:+ cs := hs ▸ skip_suffix f.verbose cs
    by_cases hc : c = '^'
    · subst hc
      simp only [caret, hs, hclosing] at h ⊢
      refine ⟨by rw [skip_append closing h], ?_⟩
      exact (skip_suffix _ _).trans ((List.suffix_cons '^' more).trans hsuf)
    · have hplain : ∀ {ds ms}, skip f.verbose ds = c :: ms → caret f ds = (false, c :: ms) := by
          intro ds ms e
          unfold caret
          rw [e]
          split
          · next e => exact absurd (List.cons.inj e).1 hc
          · rfl
      rw [hplain hclosing, hplain hs]
      exact ⟨rfl, hsuf⟩

/-- The rest of the head: hyphens have been read, and a closing bracket behind none of them
stands for itself. -/
def openingFrom (f : Flags) (negated : Bool) (hyphens cs : List Char) :
    Except Fault (Bool × Members × List Char) :=
  let members := hyphens.foldl (fun m c => Members.add m (.single c) 0) ({} : Members)
  match cs with
  | [] => throw .badClass
  | ']' :: rest =>
    if hyphens.isEmpty then return (negated, members.add (.single ']') 0, skip f.verbose rest)
    else return (negated, members, cs)
  | _ => return (negated, members, cs)

theorem opening_eq (f : Flags) (cs : List Char) :
    opening f cs = openingFrom f (caret f cs).1 (collect f.verbose (· == '-') (caret f cs).2).1
      (collect f.verbose (· == '-') (caret f cs).2).2 := rfl

theorem openingFrom_append {f : Flags} {b negated : Bool} {hyphens cs rest : List Char}
    {members : Members} (h : openingFrom f b hyphens cs = .ok (negated, members, rest))
    (hne : rest ≠ []) :
    openingFrom f b hyphens (cs ++ closing) = .ok (negated, members, rest ++ closing) ∧
      rest <:+ cs := by
  cases cs with
  | nil => cases h
  | cons c more =>
    by_cases hc : c = ']'
    · subst hc
      simp only [openingFrom, List.cons_append] at h ⊢
      by_cases hh : hyphens.isEmpty = true
      · rw [if_pos hh] at h ⊢
        obtain ⟨rfl, hmore⟩ := Prod.mk.inj (Except.ok.inj h)
        obtain ⟨rfl, rfl⟩ := Prod.mk.inj hmore
        refine ⟨by rw [skip_append closing hne]; rfl, ?_⟩
        exact (skip_suffix _ _).trans (List.suffix_cons ']' more)
      · rw [if_neg hh] at h ⊢
        obtain ⟨rfl, hmore⟩ := Prod.mk.inj (Except.ok.inj h)
        obtain ⟨rfl, rfl⟩ := Prod.mk.inj hmore
        exact ⟨rfl, List.suffix_rfl⟩
    · have hplain : ∀ ms, openingFrom f b hyphens (c :: ms) = .ok (b, hyphens.foldl
          (fun m c => Members.add m (.single c) 0) ({} : Members), c :: ms) := by
        intro ms
        unfold openingFrom
        split
        · next e => cases e
        · next e => exact absurd (List.cons.inj e).1 hc
        · rfl
      rw [hplain] at h
      obtain ⟨rfl, hmore⟩ := Prod.mk.inj (Except.ok.inj h)
      obtain ⟨rfl, rfl⟩ := Prod.mk.inj hmore
      exact ⟨hplain _, List.suffix_rfl⟩

/-- The head of a class that leaves something is read alike with the closing text behind, whose
first sign is neither a caret, nor a hyphen, nor a bracket. -/
theorem opening_append {f : Flags} {cs rest : List Char} {negated : Bool} {members : Members}
    (h : opening f cs = .ok (negated, members, rest)) (hne : rest ≠ []) :
    opening f (cs ++ closing) = .ok (negated, members, rest ++ closing) ∧ rest <:+ cs := by
  rw [opening_eq] at h ⊢
  cases hcollect : collect f.verbose (· == '-') (caret f cs).2 with
  | mk hyphens behind =>
    rw [hcollect] at h
    obtain ⟨hfrom, hsuf⟩ := openingFrom_append h hne
    have hbehind : behind ≠ [] := fun e => hne (List.suffix_nil.mp (e ▸ hsuf))
    obtain ⟨happ, hsuf', -⟩ := collect_append closing hcollect hbehind
    have hcaret : (caret f cs).2 ≠ [] := fun e => hbehind (List.suffix_nil.mp (e ▸ hsuf'))
    obtain ⟨hsign, hsuf''⟩ := caret_append hcaret
    rw [hsign, happ]
    exact ⟨hfrom, hsuf.trans (hsuf'.trans hsuf'')⟩

/-! ## 5. Rounds -/

namespace Next

/-- What a round leaves, from the closing bracket on if it ends the class. -/
def left : Next → List Char
  | done _ rest => ']' :: rest
  | more _ _ rest => rest

/-- The same round with some text behind. -/
def append (t : List Char) : Next → Next
  | done value rest => .done value (rest ++ t)
  | more members stack rest => .more members stack (rest ++ t)

end Next

/-- A round is the same with the closing text behind, and what it leaves is the end of what it was
given. -/
def RoundAppends (f : Flags) (members : Members) (stack : List Pending) (cs : List Char)
    (next : Next) : Prop :=
  round f members stack (cs ++ closing) = .ok (next.append closing) ∧ next.left <:+ cs

section Rounds

variable {f : Flags} {members : Members} {stack : List Pending} {cs rest : List Char} {next : Next}

/-- An opening bracket begins a named set, or a class whose head leaves something.  A named set that
does not end is no error but the beginning of a class, so both readings have to agree on which it
is. -/
theorem round_open_append (h : round f members stack ('[' :: cs) = .ok next)
    (hne : next.left ≠ []) : RoundAppends f members stack ('[' :: cs) next := by
  have hposix := posix?_append f cs
  simp only [RoundAppends, round, List.cons_append] at h ⊢
  cases hset : posix? f cs with
  | some found =>
    obtain ⟨set, r⟩ := found
    rw [hset] at h hposix
    obtain ⟨s, rfl, h⟩ := bind_ok h
    obtain rfl := Except.ok.inj h
    rw [hposix]
    exact ⟨rfl, (posix?_suffix hset).trans (List.suffix_cons '[' cs)⟩
  | none =>
    rw [hset] at h hposix
    obtain ⟨⟨negated, inner, r⟩, hopening, h⟩ := bind_ok h
    obtain rfl := Except.ok.inj h
    obtain ⟨hopen, hr⟩ := opening_append hopening hne
    rw [hposix]
    simp only [Option.map_none, hopen]
    exact ⟨rfl, hr.trans (List.suffix_cons '[' cs)⟩

/-- A closing bracket ends the innermost class, and the outermost one with it or not.  Nothing
behind the bracket is looked at, so no rest is asked for. -/
theorem round_close_append (h : round f members stack (']' :: cs) = .ok next) :
    RoundAppends f members stack (']' :: cs) next := by
  simp only [RoundAppends, round, List.cons_append] at h ⊢
  split at h
  · next value outer negated stack hvalue =>
    obtain ⟨s, hnegate, h⟩ := bind_ok h
    simp only [hnegate, bind, Except.bind]
    by_cases hstack : stack.isEmpty = true
    · rw [if_pos hstack] at h ⊢
      obtain rfl := Except.ok.inj h
      exact ⟨rfl, List.suffix_rfl⟩
    · rw [if_neg hstack] at h ⊢
      obtain rfl := Except.ok.inj h
      exact ⟨rfl, List.suffix_cons ']' cs⟩
  · cases h

/-- The signs that a round takes for more than a member. -/
def Special (cs : List Char) : Prop :=
  cs = [] ∨ (∃ rest, cs = '[' :: rest) ∨ (∃ rest, cs = ']' :: rest) ∨
    (∃ rest, cs = '&' :: '&' :: rest) ∨ (∃ rest, cs = '-' :: '-' :: rest) ∨
    ∃ rest, cs = '~' :: '~' :: rest

/-- Everything else is a member or a range.  What is special is said once, by `Special`, so that the
branches of a round need not be gone through again. -/
theorem round_range (h : ¬ Special cs) :
    round f members stack cs =
      (range f cs >>= fun p => pure (.more (members.add p.1 0) stack p.2)) := by
  simp only [Special, not_or, not_exists] at h
  obtain ⟨hnil, hopen, hclose, hboth, hwithout, hone⟩ := h
  unfold round
  split
  · exact absurd rfl hnil
  · exact absurd rfl (hopen _)
  · exact absurd rfl (hclose _)
  · exact absurd rfl (hboth _)
  · exact absurd rfl (hwithout _)
  · exact absurd rfl (hone _)
  · rfl

/-- A doubled sign is not completed by the closing text, which begins with a parenthesis.  The
operators on sets are the signs in question. -/
theorem doubled_of_append {a b : Char} (hb : b ≠ ')') (hne : cs ≠ [])
    (h : cs ++ closing = a :: b :: rest) : ∃ rest', cs = a :: b :: rest' := by
  match cs, hne with
  | [c], _ => exact absurd (List.cons.inj (List.cons.inj h).2).1.symm hb
  | c :: d :: more, _ =>
    obtain ⟨rfl, hmore⟩ := List.cons.inj h
    obtain ⟨rfl, -⟩ := List.cons.inj hmore
    exact ⟨more, rfl⟩

/-- The closing text turns no member into a sign, so a round with the closing text behind is of the
same kind as the round without it. -/
theorem special_of_append (hne : cs ≠ []) (h : Special (cs ++ closing)) : Special cs := by
  obtain ⟨c, more, rfl⟩ := List.exists_cons_of_ne_nil hne
  rcases h with h | ⟨_, h⟩ | ⟨_, h⟩ | ⟨_, h⟩ | ⟨_, h⟩ | ⟨_, h⟩
  · cases h
  · exact .inr (.inl ⟨more, by rw [(List.cons.inj h).1]⟩)
  · exact .inr (.inr (.inl ⟨more, by rw [(List.cons.inj h).1]⟩))
  · exact .inr (.inr (.inr (.inl (doubled_of_append (by decide) hne h))))
  · exact .inr (.inr (.inr (.inr (.inl (doubled_of_append (by decide) hne h)))))
  · exact .inr (.inr (.inr (.inr (.inr (doubled_of_append (by decide) hne h)))))

/-- A member or a range leaves something, since the class has to be closed behind it; so it is read
alike with the closing text behind. -/
theorem round_range_append (hspecial : ¬ Special cs) (h : round f members stack cs = .ok next)
    (hne : next.left ≠ []) : RoundAppends f members stack cs next := by
  have hcs : cs ≠ [] := fun e => hspecial (.inl e)
  rw [round_range hspecial] at h
  obtain ⟨⟨s, r⟩, hrange, h⟩ := bind_ok h
  obtain rfl := Except.ok.inj h
  obtain ⟨happ, hr⟩ := range_append hrange hne
  refine ⟨?_, hr⟩
  rw [round_range fun h => hspecial (special_of_append hcs h), happ]
  rfl

/-- **One round is the same with the closing text behind**, if it leaves something.  The three kinds
of rounds have a lemma each. -/
theorem round_append (h : round f members stack cs = .ok next) (hne : next.left ≠ []) :
    RoundAppends f members stack cs next := by
  by_cases hspecial : Special cs
  · rcases hspecial with rfl | ⟨_, rfl⟩ | ⟨_, rfl⟩ | ⟨_, rfl⟩ | ⟨_, rfl⟩ | ⟨_, rfl⟩
    · cases h
    · exact round_open_append h hne
    · exact round_close_append h
    all_goals
      obtain rfl := Except.ok.inj h
      exact ⟨rfl, List.suffix_append [_, _] _⟩
  · exact round_range_append hspecial h hne

end Rounds

/-! ## 6. Classes to their end -/

/-- A class is not closed by the end of the text.  So a text in which a class is closed goes on with
a character that counts. -/
theorem skip_ne_nil_of_close {f : Flags} {fuel : Nat} {members : Members}
    {stack : List Pending} {cs rest : List Char} {d : Deep}
    (h : close f fuel members stack cs = .ok (d, rest)) : skip f.verbose cs ≠ [] := by
  intro e
  cases fuel with
  | zero => cases h
  | succ fuel =>
    rw [close, e] at h
    cases h

theorem ne_nil_of_close {f : Flags} {fuel : Nat} {members : Members} {stack : List Pending}
    {cs rest : List Char} {d : Deep} (h : close f fuel members stack cs = .ok (d, rest)) :
    cs ≠ [] := fun e =>
  skip_ne_nil_of_close h (List.suffix_nil.mp (e ▸ skip_suffix f.verbose cs))

/-- **A class is closed by its own bracket.**  With the closing text behind, and with more
fuel, it is the same class.  By induction on the fuel, round by round. -/
theorem close_append {f : Flags} {fuel fuel' : Nat} {members : Members} {stack : List Pending}
    {cs rest : List Char} {d : Deep} (hle : fuel ≤ fuel')
    (h : close f fuel members stack cs = .ok (d, rest)) :
    close f fuel' members stack (cs ++ closing) = .ok (d, rest ++ closing) ∧
      ']' :: rest <:+ cs := by
  induction fuel generalizing fuel' members stack cs with
  | zero => cases h
  | succ fuel ih =>
    obtain ⟨fuel', rfl⟩ := Nat.exists_eq_add_of_le' (Nat.le_trans (Nat.succ_pos _) hle)
    have hclosing := skip_append closing (skip_ne_nil_of_close h)
    have hsuf := skip_suffix f.verbose cs
    rw [close] at h
    obtain ⟨next, hround, h⟩ := bind_ok h
    cases next with
    | done value r =>
      obtain ⟨rfl, rfl⟩ := Prod.mk.inj (Except.ok.inj h)
      obtain ⟨happ, hleft⟩ := round_append hround (List.cons_ne_nil _ _)
      refine ⟨?_, hleft.trans hsuf⟩
      rw [close, hclosing, happ]
      rfl
    | more members stack r =>
      obtain ⟨happ, hleft⟩ := round_append hround (ne_nil_of_close h)
      obtain ⟨hrest, hend⟩ := ih (Nat.le_of_succ_le_succ hle) h
      refine ⟨?_, hend.trans (hleft.trans hsuf)⟩
      rw [close, hclosing, happ]
      exact hrest

/-- **Where a class stops**: behind its own bracket, which is no backslash, and with nothing dropped
behind it. -/
theorem read_stops {f : Flags} {cs rest : List Char} {d : Deep} (h : read f cs = .ok (d, rest)) :
    Stops (read f) false cs d rest := by
  obtain ⟨⟨negated, members, r⟩, hopening, h⟩ := bind_ok h
  obtain ⟨hopen, hsuf⟩ := opening_append hopening (ne_nil_of_close h)
  obtain ⟨hclose, hend⟩ := @close_append f _ ((r ++ closing).length + 1) _ _ _ _ _
    (by simp) h
  refine Stops.of_suffix (hend.trans hsuf) (by decide) ?_
  rw [read, hopen]
  exact hclose

end Bracket

end Turnstile.Pattern
