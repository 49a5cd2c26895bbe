/-
# Escapes

What a backslash and the characters behind it stand for: a character, a set of characters or an
assertion.  `Escape.read` takes the text behind the backslash and gives back the rest.

Signs with a meaning, and all other ASCII characters but letters, digits and angle
brackets, stand for themselves; letters mean what the tables here say, and everything else
is refused.
-/
import Turnstile.Pattern.Flags
import Turnstile.Pattern.Scan
import Turnstile.Text.Number

namespace Turnstile.Pattern

open Turnstile.Text

/-- One part of a pattern that is neither a class, a group nor a repetition. -/
inductive Atom where
  | char (c : Char)
  | set (s : CharSet)
  | look (l : Look)

namespace Escape

/-! ## 1. Code points -/

/-- Digits of a fixed number, between which verbose mode drops blanks. -/
def fixedDigits (verbose : Bool) : (count : Nat) → List Char → Option (List Char × List Char)
  | 0, cs => some ([], cs)
  | _ + 1, [] => none
  | count + 1, c :: cs => do
    let (ds, rest) ← fixedDigits verbose count (skip verbose cs)
    return (c :: ds, rest)

/-- The character of a code point in hexadecimal digits. -/
def codePoint (digits : List Char) : Except Fault Char :=
  match hex? digits with
  | some n => if n.isValidChar then .ok (Char.ofNat n) else .error .badEscape
  | none => .error .badEscape

/-- A code point: `count` digits, or any number of them in braces.  A bare byte beyond ASCII is a
character only in Unicode mode. -/
def hex (f : Flags) (count : Nat) (cs : List Char) : Except Fault (Atom × List Char) :=
  match skip f.verbose cs with
  | [] => .error .badEscape
  | '{' :: cs => match collect f.verbose (· != '}') cs with
    | (digits, _ :: rest) => do
      let c ← codePoint digits
      return (.char c, skip f.verbose rest)
    | (_, []) => .error .badEscape
  | cs => match fixedDigits f.verbose count cs with
    | none => .error .badEscape
    | some (digits, rest) => do
      let c ← codePoint digits
      if count = 2 ∧ !f.unicode ∧ 0x7F < c.toNat then throw .splitsCharacters
      return (.char c, rest)

/-! ## 2. Properties -/

/-- The first place of a separator in a text: what stands before and behind it. -/
def splitOn? (separator : List Char) : List Char → Option (List Char × List Char)
  | [] => none
  | c :: cs =>
    if separator.isPrefixOf (c :: cs) then some ([], (c :: cs).drop separator.length)
    else (splitOn? separator cs).map fun (front, back) => (c :: front, back)

/-- A property and its value, if the inside of property braces has both.  They are set apart by
`!=`, by a colon or by `=`, which all say the same: a class is turned around by its letter alone. -/
def valued (body : List Char) : Option (List Char × List Char) :=
  (splitOn? ['!', '='] body).or ((splitOn? [':'] body).or (splitOn? ['='] body))

/-- The set that the inside of property braces names. -/
def property (body : List Char) : Except Fault CharSet :=
  let test? := match valued body with
    | some (name, value) => Unicode.valued? (Unicode.foldName name) (Unicode.foldName value)
    | none => Unicode.bare? (Unicode.foldName body)
  match test? with
  | some test => .ok (.codes test)
  | none => .error .unknownProperty

/-- A property class behind its letter: one character, or a name in braces. -/
def unicodeClass (f : Flags) (negated : Bool) (cs : List Char) :
    Except Fault (Atom × List Char) := do
  let (body, rest) ← match skip f.verbose cs with
    | [] => throw .badEscape
    | '{' :: cs => match collect f.verbose (· != '}') cs with
      | (body, _ :: rest) => pure (body, rest)
      | (_, []) => throw .badEscape
    | '\\' :: _ => throw .badEscape
    | c :: cs => pure ([c], skip f.verbose cs)
  if !f.unicode then throw .unicodeOff
  let s ← f.negate negated (f.fold (← property body))
  return (.set s, rest)

/-! ## 3. Word edges -/

/-- The edges of words that have a name. -/
def edge? (name : List Char) : Option Edge :=
  match String.ofList name with
  | "start" => some .start
  | "end" => some .stop
  | "start-half" => some .startHalf
  | "end-half" => some .stopHalf
  | _ => none

/-- A word edge behind its letter.  Braces name an edge if a letter or hyphen comes first in them;
otherwise they count repetitions and are left alone. -/
def wordEdge (f : Flags) (cs : List Char) : Except Fault (Atom × List Char) :=
  let inName (c : Char) : Bool := c.isAlpha || c == '-'
  let plain : Except Fault (Atom × List Char) := .ok (.look (.wordEdge .either f.unicode), cs)
  match cs with
  | '{' :: inside => match skip f.verbose inside with
    | [] => .error .badEscape
    | c :: more =>
      if !inName c then plain
      else match collect f.verbose inName (c :: more) with
        | (name, '}' :: rest) => match edge? name with
          | some edge => .ok (.look (.wordEdge edge f.unicode), rest)
          | none => .error .badEscape
        | _ => .error .badEscape
  | _ => plain

/-! ## 4. All escapes -/

/-- Characters that an escape only strips of their meaning. -/
def isPlain (c : Char) : Bool :=
  c.toNat < 0x80 && !c.isAlphanum && c != '<' && c != '>'

/-- One escape, from the text behind the backslash. -/
def read (f : Flags) : List Char → Except Fault (Atom × List Char)
  | [] => .error .badEscape
  | c :: cs => match c with
    | 'x' => hex f 2 cs
    | 'u' => hex f 4 cs
    | 'U' => hex f 8 cs
    | 'p' => unicodeClass f false cs
    | 'P' => unicodeClass f true cs
    | 'd' => .ok (.set (.digit f.unicode), cs)
    | 's' => .ok (.set (.space f.unicode), cs)
    | 'w' => .ok (.set (.word f.unicode), cs)
    | 'D' => do return (.set (← f.negate true (.digit f.unicode)), cs)
    | 'S' => do return (.set (← f.negate true (.space f.unicode)), cs)
    | 'W' => do return (.set (← f.negate true (.word f.unicode)), cs)
    | 'a' => .ok (.char '\x07', cs)
    | 'f' => .ok (.char '\x0c', cs)
    | 't' => .ok (.char '\t', cs)
    | 'n' => .ok (.char '\n', cs)
    | 'r' => .ok (.char '\r', cs)
    | 'v' => .ok (.char '\x0b', cs)
    | 'A' => .ok (.look .textStart, cs)
    | 'z' => .ok (.look .textEnd, cs)
    | 'b' => wordEdge f cs
    | 'B' => .ok (.look (.wordEdge .neither f.unicode), cs)
    | '<' => .ok (.look (.wordEdge .start f.unicode), cs)
    | '>' => .ok (.look (.wordEdge .stop f.unicode), cs)
    | _ =>
      if isPlain c then .ok (.char c, cs)
      else if c.isDigit then .error .backReference
      else .error .badEscape

end Escape

end Turnstile.Pattern
