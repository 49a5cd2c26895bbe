/-
# Positions in a text

A position counts a text up to some character in three ways: bytes of its UTF-8 form, lines, and
characters of the current line.  `Position.after` moves over one character, which is how the scanner
keeps its place.
-/

namespace Turnstile.Text

/-- A place between two characters.  Lines and columns count from one, `offset` counts bytes from
zero. -/
structure Position where
  offset : Nat
  line : Nat
  column : Nat
deriving DecidableEq, Repr

namespace Position

/-- Before the first character. -/
def start : Position := ⟨0, 1, 1⟩

/-- No place at all, which stands where there is none to tell. -/
def unknown : Position := ⟨0, 0, 0⟩

/-- Behind one more character.  A line feed ends its line; no other character does. -/
def after (p : Position) (c : Char) : Position :=
  if c = '\n' then ⟨p.offset + c.utf8Size, p.line + 1, 1⟩
  else ⟨p.offset + c.utf8Size, p.line, p.column + 1⟩

/-- The words in which messages name a place. -/
def text (p : Position) : String :=
  s!"line {p.line}, column {p.column}"

end Position

end Turnstile.Text
