/-
# Flags and errors of patterns

The flags under which a part of a pattern is read, and the reasons for which a pattern is refused.
Flags hold from where they are set to the end of the group around them.
-/
import Turnstile.Pattern.Regex

namespace Turnstile.Pattern

/-! ## 1. Errors -/

/-- Why a text is no pattern. -/
inductive Fault where
  | openGroup
  | unopenedGroup
  | nothingToRepeat
  | badRepetition
  | badEscape
  | backReference
  | badClass
  | badRange
  | badFlags
  | badGroupName
  | lookAround
  | unknownProperty
  /-- Some match would end inside a character. -/
  | splitsCharacters
  /-- The part needs Unicode mode. -/
  | unicodeOff
  | tooDeep
  | tooLarge
deriving DecidableEq, Repr

/-! ## 2. Flags -/

/-- The flags in force at a place of a pattern. -/
structure Flags where
  ignoreCase : Bool := false
  multiLine : Bool := false
  dotAll : Bool := false
  swapGreed : Bool := false
  unicode : Bool := true
  crlf : Bool := false
  /-- Blanks and comments between the parts of the pattern mean nothing. -/
  verbose : Bool := false
deriving DecidableEq, Repr

namespace Flags

/-- Sets or clears the flag of a letter. -/
def set (f : Flags) (letter : Char) (value : Bool) : Option Flags :=
  match letter with
  | 'i' => some { f with ignoreCase := value }
  | 'm' => some { f with multiLine := value }
  | 's' => some { f with dotAll := value }
  | 'U' => some { f with swapGreed := value }
  | 'u' => some { f with unicode := value }
  | 'R' => some { f with crlf := value }
  | 'x' => some { f with verbose := value }
  | _ => none

/-- The characters that a set stands for under the flags. -/
def fold (f : Flags) (s : CharSet) : CharSet :=
  if f.ignoreCase then (if f.unicode then .folded s else .foldedAscii s) else s

/-- The complement of a set.  Without Unicode it would hold bytes that are no characters. -/
def negate (f : Flags) (negated : Bool) (s : CharSet) : Except Fault CharSet :=
  if !negated then .ok s
  else if f.unicode then .ok (.complement s)
  else .error .splitsCharacters

/-- What a dot stands for. -/
def dot (f : Flags) : Except Fault CharSet :=
  if !f.unicode then .error .splitsCharacters
  else if f.dotAll then .ok .any
  else if f.crlf then .ok (.complement (.union (.single '\r') (.single '\n')))
  else .ok (.complement (.single '\n'))

/-- What a caret stands for. -/
def caret (f : Flags) : Look :=
  if f.multiLine then .lineStart f.crlf else .textStart

/-- What a dollar sign stands for. -/
def dollar (f : Flags) : Look :=
  if f.multiLine then .lineEnd f.crlf else .textEnd

end Flags

end Turnstile.Pattern
