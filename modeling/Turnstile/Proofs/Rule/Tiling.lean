/-
# Signs and blanks make up a text

A text that is scanned consists of its signs and of blanks, with nothing left over, and every sign
stands where its position says (`scan_laid`).

**What a sign may be written in** is more than its spelling: a string may have a backslash before
any character, and in a regex a backslash and what is behind it, unless that is a slash, both belong
to the source (`TokenKind.Written`).  Signs that are written in this way have spellings, so all
signs of texts do (`scan_spellable`).

**The invariant** (`Stands`): what has been read of a text is laid out in the signs so far and
blanks, but for what the stage holds of one more sign, and that sign began where its start is.  One
character keeps it (`advance_stands`), with one case for each stage; where a sign can end, it is
laid (`last_stands`) and the next one begins (`begin_stands`).

Errors are placed at the start of the sign that is open, hence in the text as well.
-/
import Turnstile.Proofs.Rule.Spelling
import Turnstile.Proofs.Text.Place

namespace Turnstile

open Turnstile.Text

/-! ## 1. Written signs -/

namespace TokenKind

/-- The inside of a string literal, and what it stands for. -/
inductive Quoted : List Char → List Char → Prop where
  | nil : Quoted [] []
  | plain {c : Char} {inside value : List Char} : c ≠ '"' → c ≠ '\\' → Quoted inside value →
    Quoted (c :: inside) (c :: value)
  | escaped {c : Char} {inside value : List Char} : Quoted inside value →
    Quoted ('\\' :: c :: inside) (c :: value)

/-- The inside of a regex literal, and its source. -/
inductive Slashed : List Char → List Char → Prop where
  | nil : Slashed [] []
  | plain {c : Char} {inside source : List Char} : c ≠ '/' → c ≠ '\\' → Slashed inside source →
    Slashed (c :: inside) (c :: source)
  | slash {inside source : List Char} : Slashed inside source →
    Slashed ('\\' :: '/' :: inside) ('/' :: source)
  | pair {c : Char} {inside source : List Char} : c ≠ '/' → Slashed inside source →
    Slashed ('\\' :: c :: inside) ('\\' :: c :: source)

/-- The characters are a way to write the sign. -/
def Written : TokenKind → List Char → Prop
  | word w, cs => IsWord w ∧ cs = w.toList
  | string s, cs => ∃ inside, Quoted inside s.toList ∧ cs = '"' :: inside ++ ['"']
  | regex r, cs => ∃ inside, Slashed inside r.toList ∧ cs = '/' :: inside ++ ['/']
  | finish, _ => False
  | kind, cs => cs = kind.spelling

theorem Quoted.append {inside value inside' value' : List Char} (h : Quoted inside value)
    (h' : Quoted inside' value') : Quoted (inside ++ inside') (value ++ value') := by
  induction h with
  | nil => exact h'
  | plain hquote hback _ ih => exact .plain hquote hback ih
  | escaped _ ih => exact .escaped ih

theorem Slashed.append {inside source inside' source' : List Char} (h : Slashed inside source)
    (h' : Slashed inside' source') : Slashed (inside ++ inside') (source ++ source') := by
  induction h with
  | nil => exact h'
  | plain hslash hback _ ih => exact .plain hslash hback ih
  | slash _ ih => exact .slash ih
  | pair hslash _ ih => exact .pair hslash ih

/-- The source of a literal can be spelled: no slash in it lacks a backslash, and no backslash at
its end lacks a partner. -/
theorem Slashed.spellable {inside source : List Char} (h : Slashed inside source) :
    slashPair false source = false ∧ openPair false source = false := by
  induction h with
  | nil => exact ⟨rfl, rfl⟩
  | @plain c _ _ _ hback _ ih =>
    have hback : (c == '\\') = false := by simpa using hback
    simpa [slashPair, openPair, hback] using ih
  | slash _ ih => simpa [slashPair, openPair] using ih
  | pair hslash _ ih => simpa [slashPair, openPair, hslash] using ih

/-- A sign that is written has a spelling.  It need not be the one it was written with, since
literals have several. -/
theorem Written.spellable {k : TokenKind} {cs : List Char} (h : k.Written cs) : k.Spellable := by
  cases k with
  | word w => exact h.1
  | regex r =>
    obtain ⟨inside, hinside, -⟩ := h
    exact hinside.spellable
  | finish => exact h
  | _ => trivial

/-- A sign is written in some characters, so the offsets of signs that follow each other differ. -/
theorem Written.ne_nil {k : TokenKind} {cs : List Char} (h : k.Written cs) : cs ≠ [] := by
  cases k with
  | word w =>
    obtain ⟨hw, rfl⟩ := h
    exact hw.1
  | string s | regex r =>
    obtain ⟨inside, -, rfl⟩ := h
    simp
  | finish => cases h
  | _ =>
    obtain rfl : cs = _ := h
    simp [spelling]

end TokenKind

open TokenKind

/-! ## 2. Texts laid out in signs and blanks -/

/-- The characters are signs in this order and blanks, and each sign stands where its position
says. -/
inductive Laid : List Char → List Token → Prop where
  | nil : Laid [] []
  | blank {front : List Char} {signs : List Token} {c : Char} : Laid front signs →
    isBlank c = true → Laid (front ++ [c]) signs
  | sign {front lexeme : List Char} {signs : List Token} {kind : TokenKind} : Laid front signs →
    kind.Written lexeme → Laid (front ++ lexeme) (signs ++ [⟨kind, .behind front⟩])

theorem Laid.spellable {cs : List Char} {signs : List Token} (h : Laid cs signs) :
    ∀ t ∈ signs, t.kind.Spellable := by
  induction h with
  | nil => simp
  | blank _ _ ih => exact ih
  | sign _ hwritten ih =>
    intro t ht
    rcases List.mem_append.mp ht with ht | ht
    · exact ih t ht
    · obtain rfl := List.mem_singleton.mp ht
      exact hwritten.spellable

/-- The signs stand in the text, each at the place behind some part of it. -/
theorem Laid.isIn {cs : List Char} {signs : List Token} (h : Laid cs signs) :
    ∀ t ∈ signs, t.position.IsIn cs := by
  induction h with
  | nil => simp
  | blank _ _ ih => exact fun t ht => (ih t ht).append _
  | @sign front lexeme signs kind _ _ ih =>
    intro t ht
    rcases List.mem_append.mp ht with ht | ht
    · exact (ih t ht).append _
    · obtain rfl := List.mem_singleton.mp ht
      exact ⟨front, lexeme, rfl, rfl⟩

/-- The offsets of the signs, and then that of the end, are one greater than the other, as each sign
takes up at least one byte. -/
theorem Laid.offsets {cs : List Char} {signs : List Token} (h : Laid cs signs) :
    (∀ t ∈ signs, t.position.offset < (Position.behind cs).offset) ∧
      signs.Pairwise fun t u => t.position.offset < u.position.offset := by
  induction h with
  | nil => simp
  | @blank front signs c _ _ ih =>
    obtain ⟨hlt, hpairwise⟩ := ih
    have hmore := Position.offset_behind_lt front (List.cons_ne_nil c [])
    exact ⟨fun t ht => (hlt t ht).trans hmore, hpairwise⟩
  | @sign front lexeme signs kind _ hwritten ih =>
    obtain ⟨hlt, hpairwise⟩ := ih
    have hmore := Position.offset_behind_lt front hwritten.ne_nil
    constructor
    · intro t ht
      rcases List.mem_append.mp ht with ht | ht
      · exact (hlt t ht).trans hmore
      · obtain rfl := List.mem_singleton.mp ht
        exact hmore
    · refine List.pairwise_append.mpr ⟨hpairwise, List.pairwise_singleton _ _, ?_⟩
      intro t ht u hu
      obtain rfl := List.mem_singleton.mp hu
      exact hlt t ht

namespace Scanner

/-! ## 3. The layout so far -/

/-- A backslash that waits for its partner. -/
def waiting (escaped : Bool) : List Char :=
  if escaped then ['\\'] else []

/-- The stage has read these characters of a sign that begins here. -/
def Stage.Holds (here : Position) : Stage → List Char → Prop
  | .between, cs => cs = []
  | .word start read, cs => start = here ∧ IsWord (textOf read) ∧ cs = read.reverse
  | .string start read escaped, cs => start = here ∧
    ∃ inside, Quoted inside read.reverse ∧ cs = '"' :: (inside ++ waiting escaped)
  | .regex start read escaped, cs => start = here ∧
    ∃ inside, Slashed inside read.reverse ∧ cs = '/' :: (inside ++ waiting escaped)
  | .equals start, cs => start = here ∧ cs = ['=']
  | .half start c, cs => start = here ∧ (c = '&' ∨ c = '|') ∧ cs = [c]

/-- The characters are laid out in the signs, latest first, and blanks, but for those that the
stage holds of one more sign. -/
def Stands (cs : List Char) (tokens : List Token) (stage : Stage) : Prop :=
  ∃ front lexeme, cs = front ++ lexeme ∧ Laid front tokens.reverse ∧
    stage.Holds (.behind front) lexeme

variable {cs front lexeme : List Char} {tokens : List Token} {stage : Stage} {c : Char}

theorem stands_between (h : Laid cs tokens.reverse) : Stands cs tokens .between :=
  ⟨cs, [], by simp, h, rfl⟩

/-- A sign more is laid behind the others.  The scanner keeps its signs with the latest first, and
so the list is turned round here. -/
theorem laid_cons {kind : TokenKind} (h : Laid front tokens.reverse) (hk : kind.Written lexeme) :
    Laid (front ++ lexeme) (⟨kind, .behind front⟩ :: tokens).reverse := by
  rw [List.reverse_cons]
  exact h.sign hk

/-- A character that begins a sign or is a blank.  Nothing is open in front of it, so what is laid
is the whole text so far. -/
theorem begin_stands (h : Laid cs tokens.reverse) (c : Char) :
    Stands (cs ++ [c]) ((begin (.behind cs) c).1 ++ tokens) (begin (.behind cs) c).2 := by
  by_cases hb : isBlank c = true
  · rw [begin_blank _ hb]
    exact stands_between (h.blank hb)
  by_cases hword : isWordChar c = true ∧ c ≠ '/'
  · obtain ⟨hw, hs⟩ := hword
    rw [begin_word _ hw hs]
    exact ⟨cs, [c], rfl, h, rfl, by simp [IsWord, textOf, hw, hs], rfl⟩
  · -- neither blank nor part of a word: one of the signs
    unfold begin
    split
    case h_11 hopen hclose hbang htilde hgreater hequals hand hor hquote hslash =>
      have hw : isWordChar c = true := by
        simp only [isWordChar, hb, Bool.not_false, Bool.true_and, Bool.not_eq_true',
          List.contains_eq_mem, decide_eq_false_iff_not, List.mem_cons, List.not_mem_nil, or_false,
          not_or]
        exact ⟨hopen, hclose, hbang, hand, hor, hequals, htilde, hgreater, hquote⟩
      exact absurd ⟨hw, hslash⟩ hword
    case h_6 => exact ⟨cs, ['='], rfl, h, rfl, rfl⟩
    case h_7 | h_8 => exact ⟨cs, _, rfl, h, rfl, by simp, rfl⟩
    case h_9 => exact ⟨cs, ['"'], rfl, h, rfl, [], .nil, rfl⟩
    case h_10 => exact ⟨cs, ['/'], rfl, h, rfl, [], .nil, rfl⟩
    all_goals exact stands_between (laid_cons h rfl)

/-- The sign that is open where it can end.  It is laid where it began, with all the characters read
since. -/
theorem last_stands {open_ : List Token} (h : Stands cs tokens stage)
    (hl : last stage = .ok open_) : Laid cs (open_ ++ tokens).reverse := by
  obtain ⟨front, lexeme, rfl, hfront, hholds⟩ := h
  cases stage with
  | between =>
    obtain rfl : [] = open_ := Except.ok.inj hl
    obtain rfl : lexeme = [] := hholds
    simpa using hfront
  | word start read =>
    obtain rfl : [⟨.word (textOf read), start⟩] = open_ := Except.ok.inj hl
    obtain ⟨rfl, hword, rfl⟩ := hholds
    exact laid_cons hfront ⟨hword, by simp [textOf]⟩
  | equals start =>
    obtain rfl : [⟨.equals, start⟩] = open_ := Except.ok.inj hl
    obtain ⟨rfl, rfl⟩ := hholds
    exact laid_cons hfront rfl
  | _ => cases hl

/-- A word goes on, and is a word still, with the new character at its end. -/
theorem isWord_textOf_cons {read : List Char} (h : IsWord (textOf read))
    (hc : isWordChar c = true) : IsWord (textOf (c :: read)) := by
  obtain ⟨hne, hslash, hall⟩ := h
  simp only [textOf, String.toList_ofList] at hne hslash hall
  refine ⟨by simp [textOf], ?_, ?_⟩
  · rw [textOf, String.toList_ofList, List.reverse_cons, List.head?_append,
      Option.or_of_isSome (List.isSome_head?.mpr hne)]
    exact hslash
  · intro d hd
    simp only [textOf, String.toList_ofList, List.mem_reverse, List.mem_cons] at hd
    rcases hd with rfl | hd
    · exact hc
    · exact hall d (List.mem_reverse.mpr hd)

/-- One more character of the sign that is open, which stays where it began. -/
theorem stands_open (h : Laid front tokens.reverse)
    (hs : stage.Holds (.behind front) (lexeme ++ [c])) :
    Stands (front ++ lexeme ++ [c]) tokens stage :=
  ⟨front, lexeme ++ [c], List.append_assoc .., h, hs⟩

/-- The last character of the sign that is open, which is then laid behind the others. -/
theorem stands_closed {kind : TokenKind} (h : Laid front tokens.reverse)
    (hk : kind.Written (lexeme ++ [c])) :
    Stands (front ++ lexeme ++ [c]) (⟨kind, .behind front⟩ :: tokens) .between := by
  rw [List.append_assoc]
  exact stands_between (laid_cons h hk)

/-- A character inside a string literal, or at its end.  What is behind a backslash is taken as it
is, so a quote ends the literal only where none is waiting. -/
theorem string_stands {start : Position} {read : List Char} {escaped : Bool} {signs : List Token}
    {stage' : Stage} (h : Stands cs tokens (.string start read escaped))
    (ha : advance (.behind cs) c (.string start read escaped) = .ok (signs, stage')) :
    Stands (cs ++ [c]) (signs ++ tokens) stage' := by
  obtain ⟨front, lexeme, rfl, hfront, rfl, inside, hinside, rfl⟩ := h
  cases escaped with
  | true =>
    obtain ⟨rfl, rfl⟩ := Prod.mk.inj (Except.ok.inj ha)
    have hpair : Quoted (inside ++ ['\\', c]) (c :: read).reverse := by
      rw [List.reverse_cons]
      exact hinside.append (.escaped .nil)
    exact stands_open hfront ⟨rfl, _, hpair, by simp [waiting]⟩
  | false =>
    simp only [advance] at ha
    split at ha
    · next hquote =>
      subst hquote
      obtain ⟨rfl, rfl⟩ := Prod.mk.inj (Except.ok.inj ha)
      refine stands_closed hfront ⟨inside, ?_, by simp [waiting]⟩
      rwa [textOf, String.toList_ofList]
    · next hquote =>
      split at ha
      · next hback =>
        subst hback
        obtain ⟨rfl, rfl⟩ := Prod.mk.inj (Except.ok.inj ha)
        exact stands_open hfront ⟨rfl, inside, hinside, by simp [waiting]⟩
      · next hback =>
        obtain ⟨rfl, rfl⟩ := Prod.mk.inj (Except.ok.inj ha)
        have hplain : Quoted (inside ++ [c]) (c :: read).reverse := by
          rw [List.reverse_cons]
          exact hinside.append (.plain hquote hback .nil)
        exact stands_open hfront ⟨rfl, _, hplain, by simp [waiting]⟩

/-- A character inside a regex literal, or at its end.  A backslash is kept in the source unless a
slash comes behind it. -/
theorem regex_stands {start : Position} {read : List Char} {escaped : Bool} {signs : List Token}
    {stage' : Stage} (h : Stands cs tokens (.regex start read escaped))
    (ha : advance (.behind cs) c (.regex start read escaped) = .ok (signs, stage')) :
    Stands (cs ++ [c]) (signs ++ tokens) stage' := by
  obtain ⟨front, lexeme, rfl, hfront, rfl, inside, hinside, rfl⟩ := h
  cases escaped with
  | true =>
    simp only [advance] at ha
    split at ha
    · next hslash =>
      subst hslash
      obtain ⟨rfl, rfl⟩ := Prod.mk.inj (Except.ok.inj ha)
      have hpair : Slashed (inside ++ ['\\', '/']) ('/' :: read).reverse := by
        rw [List.reverse_cons]
        exact hinside.append (.slash .nil)
      exact stands_open hfront ⟨rfl, _, hpair, by simp [waiting]⟩
    · next hslash =>
      obtain ⟨rfl, rfl⟩ := Prod.mk.inj (Except.ok.inj ha)
      have hpair : Slashed (inside ++ ['\\', c]) (c :: '\\' :: read).reverse := by
        rw [List.reverse_cons, List.reverse_cons, List.append_assoc]
        exact hinside.append (.pair hslash .nil)
      exact stands_open hfront ⟨rfl, _, hpair, by simp [waiting]⟩
  | false =>
    simp only [advance] at ha
    split at ha
    · next hslash =>
      subst hslash
      obtain ⟨rfl, rfl⟩ := Prod.mk.inj (Except.ok.inj ha)
      refine stands_closed hfront ⟨inside, ?_, by simp [waiting]⟩
      rwa [textOf, String.toList_ofList]
    · next hslash =>
      split at ha
      · next hback =>
        subst hback
        obtain ⟨rfl, rfl⟩ := Prod.mk.inj (Except.ok.inj ha)
        exact stands_open hfront ⟨rfl, inside, hinside, by simp [waiting]⟩
      · next hback =>
        obtain ⟨rfl, rfl⟩ := Prod.mk.inj (Except.ok.inj ha)
        have hplain : Slashed (inside ++ [c]) (c :: read).reverse := by
          rw [List.reverse_cons]
          exact hinside.append (.plain hslash hback .nil)
        exact stands_open hfront ⟨rfl, _, hplain, by simp [waiting]⟩

/-- **One more character keeps the layout**, with one case for each stage the scanner may be in. -/
theorem advance_stands {signs : List Token} {stage' : Stage} (h : Stands cs tokens stage)
    (ha : advance (.behind cs) c stage = .ok (signs, stage')) :
    Stands (cs ++ [c]) (signs ++ tokens) stage' := by
  -- a sign that ends here is laid, and the character begins the next one
  have ends : ∀ {open_}, last stage = .ok open_ → stage.continues c = false →
      Stands (cs ++ [c]) (signs ++ tokens) stage' := by
    intro open_ hl hc
    rw [advance_begin _ hl hc] at ha
    obtain ⟨rfl, rfl⟩ := Prod.mk.inj (Except.ok.inj ha)
    rw [List.append_assoc]
    exact begin_stands (last_stands h hl) c
  cases stage with
  | between => exact ends rfl rfl
  | word start read =>
    by_cases hw : isWordChar c = true
    · simp only [advance, hw, if_true] at ha
      obtain ⟨rfl, rfl⟩ := Prod.mk.inj (Except.ok.inj ha)
      obtain ⟨front, lexeme, rfl, hfront, rfl, hword, rfl⟩ := h
      exact stands_open hfront ⟨rfl, isWord_textOf_cons hword hw, (List.reverse_cons ..).symm⟩
    · exact ends rfl (by simpa [Stage.continues] using hw)
  | string start read escaped => exact string_stands h ha
  | regex start read escaped => exact regex_stands h ha
  | equals start =>
    by_cases hg : c = '>'
    · subst hg
      obtain ⟨rfl, rfl⟩ := Prod.mk.inj (Except.ok.inj ha)
      obtain ⟨front, lexeme, rfl, hfront, rfl, rfl⟩ := h
      exact stands_closed hfront rfl
    · exact ends rfl (by simpa [Stage.continues] using hg)
  | half start first =>
    simp only [advance] at ha
    split at ha
    · next hfirst =>
      subst hfirst
      obtain ⟨rfl, rfl⟩ := Prod.mk.inj (Except.ok.inj ha)
      obtain ⟨front, lexeme, rfl, hfront, rfl, rfl | rfl, rfl⟩ := h
      · exact stands_closed hfront rfl
      · exact stands_closed hfront rfl
    · cases ha

/-- The stage has begun a sign in the text that has been read, and an error is placed there: at the
beginning of the sign, not where it was noticed. -/
theorem advance_error_isIn {p : Position} {e : ParseError} (h : Stands cs tokens stage)
    (ha : advance p c stage = .error e) : e.position.IsIn cs := by
  obtain ⟨front, lexeme, rfl, -, hholds⟩ := h
  cases stage with
  | half start first =>
    simp only [advance] at ha
    split at ha
    · cases ha
    · obtain rfl := Except.error.inj ha
      exact ⟨front, lexeme, rfl, hholds.1⟩
  | string start read escaped | regex start read escaped =>
    -- a literal takes any character
    cases escaped <;> grind [advance]
  | _ => grind [advance]

/-- The same at the end of the text, where a literal that is still open is an error. -/
theorem last_error_isIn {e : ParseError} (h : Stands cs tokens stage)
    (hl : last stage = .error e) : e.position.IsIn cs := by
  obtain ⟨front, lexeme, rfl, -, hholds⟩ := h
  cases stage with
  | string start read escaped | regex start read escaped | half start first =>
    obtain rfl := Except.error.inj hl
    exact ⟨front, lexeme, rfl, hholds.1⟩
  | _ => cases hl

/-! ## 4. Texts -/

/-- **A run keeps the layout**, and an error in it is placed in the text.  It starts behind any part
of the text, which is what the induction needs. -/
theorem steps_stands : ∀ {cs before : List Char} {st : State},
    Stands before st.tokens st.stage → st.position = .behind before →
    match steps st cs with
    | .ok st' => Stands (before ++ cs) st'.tokens st'.stage ∧ st'.position = .behind (before ++ cs)
    | .error e => e.position.IsIn (before ++ cs)
  | [], before, st, h, hp => by simpa [steps] using ⟨h, hp⟩
  | c :: cs, before, ⟨tokens, stage, p⟩, h, hp => by
    obtain rfl : p = .behind before := hp
    rw [List.append_cons]
    cases ha : advance (.behind before) c stage with
    | error e =>
      have herror : steps ⟨tokens, stage, .behind before⟩ (c :: cs) = .error e := by
        simp only [steps, List.foldlM_cons, State.step, ha]
        rfl
      rw [herror]
      exact ((advance_error_isIn h ha).append [c]).append cs
    | ok out =>
      obtain ⟨signs, stage'⟩ := out
      rw [steps_cons cs ha]
      exact steps_stands (advance_stands h ha) (Position.after_behind before c)

/-- A run from the start of a text, where nothing is laid and nothing is open. -/
theorem run_stands (cs : List Char) :
    match steps {} cs with
    | .ok st => Stands cs st.tokens st.stage ∧ st.position = .behind cs
    | .error e => e.position.IsIn cs := by
  have hrun := @steps_stands cs [] {} (stands_between .nil) Position.behind_nil.symm
  rwa [List.nil_append] at hrun

/-- **The signs of a text and blanks make it up**, and the end sign stands behind it.  So nothing of
a text is lost, and nothing is read twice. -/
theorem scan_laid {cs : List Char} {tokens : List Token} (h : scan cs = .ok tokens) :
    ∃ signs, tokens = signs ++ [⟨.finish, .behind cs⟩] ∧ Laid cs signs := by
  obtain ⟨st, open_, hst, hl, rfl⟩ := steps_of_scan h
  have hrun := run_stands cs
  rw [hst] at hrun
  obtain ⟨hstands, hp⟩ := hrun
  rw [hp]
  exact ⟨_, rfl, last_stands hstands hl⟩

/-- **An error is placed in the text**, so a caller can always show where it is. -/
theorem scan_error_isIn {cs : List Char} {e : ParseError} (h : scan cs = .error e) :
    e.position.IsIn cs := by
  have hrun := run_stands cs
  obtain hst | ⟨st, hst, hl⟩ := steps_of_scan_error h
  · rw [hst] at hrun
    exact hrun
  · rw [hst] at hrun
    exact last_error_isIn hrun.1 hl

/-- **Every scanned sign has a spelling**, but for the end sign behind them.  So texts can be made
for any signs that were scanned. -/
theorem scan_spellable {cs : List Char} {tokens : List Token} (h : scan cs = .ok tokens) :
    ∃ ks, tokens.map Token.kind = ks ++ [.finish] ∧ ∀ k ∈ ks, k.Spellable := by
  obtain ⟨signs, rfl, hlaid⟩ := scan_laid h
  refine ⟨signs.map Token.kind, by simp, ?_⟩
  intro k hk
  obtain ⟨t, ht, rfl⟩ := List.mem_map.mp hk
  exact hlaid.spellable t ht

end Scanner

end Turnstile
