/-
# Scanning rule text

The lexer of the rule language.  Rule text is cut into signs, the tokens of the language, one
character at a time.  The scanner's stage says what the characters since the last complete sign are
the beginning of; a character either goes on with it, or completes it, or both completes it and
begins the next one.

Blanks only separate.  A slash begins a regex literal where a sign may begin, and is part of a word
elsewhere.  In a string literal a backslash takes the next character as it is; in a regex literal it
does so only for a slash, and other pairs are left to the pattern.

`scan` gives the signs of a text in order, with one end sign behind them.
-/
import Turnstile.Rule.Error

namespace Turnstile.Scanner

open Turnstile.Text

/-! ## 1. Stages -/

/-- Characters that go on with a word. -/
def isWordChar (c : Char) : Bool :=
  !isBlank c && !(['(', ')', '!', '&', '|', '=', '~', '>', '"'].contains c)

/-- What has been read of the next sign, with the characters in reverse. -/
inductive Stage where
  /-- Nothing. -/
  | between
  | word (start : Position) (read : List Char)
  /-- Inside quotes; `escaped` behind a backslash. -/
  | string (start : Position) (read : List Char) (escaped : Bool)
  /-- Inside slashes; `escaped` behind a backslash. -/
  | regex (start : Position) (read : List Char) (escaped : Bool)
  /-- An equals sign, which may become an arrow. -/
  | equals (start : Position)
  /-- The first half of an operator of two equal characters. -/
  | half (start : Position) (c : Char)
deriving DecidableEq, Repr

/-- The scanner behind some text: complete signs, the latest first, and the stage. -/
structure State where
  tokens : List Token := []
  stage : Stage := .between
  position : Position := .start
deriving DecidableEq, Repr

/-! ## 2. Steps -/

/-- The first character of a sign: signs that it completes, and the stage behind it. -/
def begin (p : Position) (c : Char) : List Token × Stage :=
  match c with
  | '(' => ([⟨.openGroup, p⟩], .between)
  | ')' => ([⟨.closeGroup, p⟩], .between)
  | '!' => ([⟨.bang, p⟩], .between)
  | '~' => ([⟨.tilde, p⟩], .between)
  | '>' => ([⟨.greater, p⟩], .between)
  | '=' => ([], .equals p)
  | '&' => ([], .half p '&')
  | '|' => ([], .half p '|')
  | '"' => ([], .string p [] false)
  | '/' => ([], .regex p [] false)
  | c => if isBlank c then ([], .between) else ([], .word p [c])

/-- The operator of two equal characters. -/
def doubled (c : Char) : TokenKind :=
  if c = '&' then .both else .either

/-- Text read in reverse. -/
def textOf (read : List Char) : String :=
  String.ofList read.reverse

/-- One character at a position: the signs that it completes, latest first, and the stage
behind it. -/
def advance (p : Position) (c : Char) : Stage → Except ParseError (List Token × Stage)
  | .between => .ok (begin p c)
  | .word start read =>
    if isWordChar c then .ok ([], .word start (c :: read))
    else
      let (tokens, stage) := begin p c
      .ok (tokens ++ [⟨.word (textOf read), start⟩], stage)
  | .string start read true => .ok ([], .string start (c :: read) false)
  | .string start read false =>
    if c = '"' then .ok ([⟨.string (textOf read), start⟩], .between)
    else if c = '\\' then .ok ([], .string start read true)
    else .ok ([], .string start (c :: read) false)
  | .regex start read true =>
    if c = '/' then .ok ([], .regex start ('/' :: read) false)
    else .ok ([], .regex start (c :: '\\' :: read) false)
  | .regex start read false =>
    if c = '/' then .ok ([⟨.regex (textOf read), start⟩], .between)
    else if c = '\\' then .ok ([], .regex start read true)
    else .ok ([], .regex start (c :: read) false)
  | .equals start =>
    if c = '>' then .ok ([⟨.arrow, start⟩], .between)
    else
      let (tokens, stage) := begin p c
      .ok (tokens ++ [⟨.equals, start⟩], stage)
  | .half start first =>
    if c = first then .ok ([⟨doubled first, start⟩], .between)
    else .error ⟨.unexpectedChar first, start⟩

/-- Reads one more character. -/
def State.step (st : State) (c : Char) : Except ParseError State := do
  let (tokens, stage) ← advance st.position c st.stage
  return ⟨tokens ++ st.tokens, stage, st.position.after c⟩

/-- The last sign before the end of the text, if one is open. -/
def last : Stage → Except ParseError (List Token)
  | .between => .ok []
  | .word start read => .ok [⟨.word (textOf read), start⟩]
  | .string start _ _ => .error ⟨.unterminated .string, start⟩
  | .regex start _ _ => .error ⟨.unterminated .regex, start⟩
  | .equals start => .ok [⟨.equals, start⟩]
  | .half start c => .error ⟨.unexpectedChar c, start⟩

/-! ## 3. Texts -/

/-- The signs of a text in order; the last one, and only the last, marks its end. -/
def scan (cs : List Char) : Except ParseError (List Token) := do
  let st ← cs.foldlM State.step {}
  let open_ ← last st.stage
  return (⟨.finish, st.position⟩ :: open_ ++ st.tokens).reverse

end Turnstile.Scanner
