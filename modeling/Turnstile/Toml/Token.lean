/-
# Signs of a TOML document

`tokens?` cuts a document into signs: punctuation, runs of spaces and tabs, line breaks, quoted
texts, and bare words, which are all that stands between those.  Comments are dropped.  A mark of
the byte order in front of a document is not part of it.
-/
import Turnstile.Toml.Quoted

namespace Turnstile.Toml

/-- A sign. -/
inductive Token where
  | dot
  | equals
  | comma
  | openArray
  | closeArray
  | openTable
  | closeTable
  | gap (cs : List Char)
  | newline
  | bare (cs : List Char)
  /-- Quoted text on one line, which may also be a key. -/
  | quoted (s : String)
  /-- Quoted text of several lines. -/
  | lines (s : String)
deriving DecidableEq, Repr

namespace Token

open Quoted

/-- Characters that end a bare word. -/
def endsBare (c : Char) : Bool :=
  ['.', '=', ',', '[', ']', '\x7b', '\x7d', ' ', '\t', '#', '\r', '\n'].contains c

/-- Skips a comment up to the end of its line. -/
def comment : List Char → Option (List Char)
  | [] => some []
  | c :: rest =>
    if c = '\n' ∨ (c = '\r' ∧ rest.head? = some '\n') then some (c :: rest)
    else if isPlain c then comment rest
    else none

/-- A quoted text, from behind its first quote. -/
def quotedText (quote : Char) (rest : List Char) : Option (Token × List Char) :=
  let text (many : Bool) (cs : List Char) : Option (String × List Char) :=
    if quote = '\'' then literal many [] cs else basic many .plain [] cs
  if closes quote rest then (text true (dropBreak (rest.drop 2))).map fun t => (lines t.1, t.2)
  else (text false rest).map fun t => (quoted t.1, t.2)

/-- The first sign of a text that begins with `c`, if it is not a comment. -/
def first? (c : Char) (rest : List Char) : Option (Token × List Char) :=
  match c with
  | '.' => some (dot, rest)
  | '=' => some (equals, rest)
  | ',' => some (comma, rest)
  | '[' => some (openArray, rest)
  | ']' => some (closeArray, rest)
  | '\x7b' => some (openTable, rest)
  | '\x7d' => some (closeTable, rest)
  | '\n' => some (newline, rest)
  | '\r' => match rest with
    | '\n' :: rest => some (newline, rest)
    | _ => none
  | '\'' => quotedText c rest
  | '"' => quotedText c rest
  | c =>
    if isGap c then some (gap (c :: rest.takeWhile isGap), rest.dropWhile isGap)
    else some (bare (c :: rest.takeWhile (!endsBare ·)), rest.dropWhile (!endsBare ·))

/-- Cuts a text into signs, which it adds to those before.  Each takes at least one character, so
the fuel, one more than the characters left, is never used up. -/
def scan : (fuel : Nat) → (before : List Token) → List Char → Option (List Token)
  | 0, _, _ => none
  | _ + 1, before, [] => some before.reverse
  | fuel + 1, before, '#' :: rest => (comment rest).bind (scan fuel before)
  | fuel + 1, before, c :: rest => (first? c rest).bind fun t => scan fuel (t.1 :: before) t.2

end Token

/-- The signs of a document. -/
def tokens? (text : String) : Option (List Token) :=
  let cs := match text.toList with
    | '\uFEFF' :: rest => rest
    | cs => cs
  Token.scan (cs.length + 1) [] cs

end Turnstile.Toml
