/-
# Tokens

The signs that rule text is made of.  Each has one spelling that the printer uses
(`TokenKind.spelling`), and a name in messages.
-/
import Turnstile.Text.Position
import Turnstile.Text.Shown

namespace Turnstile

open Turnstile.Text

/-- A sign of rule text. -/
inductive TokenKind where
  /-- Anything without blanks and operators: names, addresses, blocks, numbers, labels. -/
  | word (text : String)
  /-- A literal in double quotes, given by what it stands for. -/
  | string (value : String)
  /-- A literal in slashes, given by its pattern. -/
  | regex (source : String)
  | equals
  | tilde
  | greater
  | bang
  | both
  | either
  | openGroup
  | closeGroup
  | arrow
  /-- The end of the text. -/
  | finish
deriving DecidableEq, Repr

/-- A sign and where it starts. -/
structure Token where
  kind : TokenKind
  position : Position
deriving DecidableEq, Repr

namespace TokenKind

/-! ## 1. Spelling -/

/-- The inside of a string literal: quotes and backslashes behind a backslash. -/
def quote (cs : List Char) : List Char :=
  cs.flatMap fun c => if c = '"' ∨ c = '\\' then ['\\', c] else [c]

/-- The inside of a regex literal: slashes behind a backslash. -/
def slash (cs : List Char) : List Char :=
  cs.flatMap fun c => if c = '/' then ['\\', c] else [c]

/-- The characters of a sign. -/
def spelling : TokenKind → List Char
  | word w => w.toList
  | string s => '"' :: quote s.toList ++ ['"']
  | regex r => '/' :: slash r.toList ++ ['/']
  | equals => ['=']
  | tilde => ['~']
  | greater => ['>']
  | bang => ['!']
  | both => ['&', '&']
  | either => ['|', '|']
  | openGroup => ['(']
  | closeGroup => [')']
  | arrow => ['=', '>']
  | finish => []

/-! ## 2. Messages -/

/-- The sign's name in messages. -/
def name : TokenKind → String
  | word w => "'" ++ w ++ "'"
  | string s => "string " ++ shown s
  | regex r => "regex /" ++ r ++ "/"
  | finish => "end of rule"
  | kind => "'" ++ String.ofList kind.spelling ++ "'"

end TokenKind

end Turnstile
