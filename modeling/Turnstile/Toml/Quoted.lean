/-
# Quoted text in TOML

Text stands between single quotes, where every character is itself, or between double quotes, where
a backslash begins an escape.  Three quotes of either kind hold text of several lines: a line break
right behind the opening quotes is dropped, and up to two quotes may stand directly before the
closing ones.

`literal` and `basic` read what is behind the opening quotes, and give the text and the rest.
-/
import Turnstile.Text.Number

namespace Turnstile.Toml.Quoted

/-! ## 1. Characters -/

/-- Spaces and tabs. -/
def isGap (c : Char) : Bool :=
  c == ' ' || c == '\t'

/-- Characters that may stand in quotes and in comments: all but controls, of which only the
tab is allowed. -/
def isPlain (c : Char) : Bool :=
  c == '\t' || (0x20 ≤ c.toNat && c.toNat != 0x7F)

/-- Whether a character may stand as itself in text of several lines: line breaks may, and a
carriage return only as the first half of one. -/
def isPlainOrBreak (c : Char) (rest : List Char) : Bool :=
  isPlain c || c == '\n' || (c == '\r' && rest.head? == some '\n')

/-- Without a line break in front. -/
def dropBreak : List Char → List Char
  | '\n' :: rest => rest
  | '\r' :: '\n' :: rest => rest
  | rest => rest

/-- The end of text of several lines behind the third quote: up to two more quotes belong to
the text. -/
def closeLines (quote : Char) (read rest : List Char) : String × List Char :=
  let more := (rest.take 2).takeWhile (· == quote)
  (String.ofList (more ++ read).reverse, rest.drop more.length)

/-- Whether three closing quotes begin here. -/
def closes (quote : Char) (rest : List Char) : Bool :=
  rest.take 2 == [quote, quote]

/-! ## 2. Single quotes -/

/-- Text in single quotes; `read` holds its characters so far in reverse. -/
def literal (many : Bool) (read : List Char) : List Char → Option (String × List Char)
  | [] => none
  | c :: rest =>
    if c = '\'' then
      if !many then some (String.ofList read.reverse, rest)
      else if closes '\'' rest then some (closeLines '\'' read (rest.drop 2))
      else literal many (c :: read) rest
    else if (if many then isPlainOrBreak c rest else isPlain c) then literal many (c :: read) rest
    else none

/-! ## 3. Double quotes -/

/-- What is owed inside double quotes. -/
inductive Stage where
  /-- Nothing: a character stands for itself, ends the text or begins an escape. -/
  | plain
  /-- The character behind a backslash. -/
  | escape
  /-- Hexadecimal digits of a code point, of which some have been read. -/
  | hex (left value : Nat)
  /-- Blanks behind a backslash that joins lines; `broken` behind a line break. -/
  | join (broken : Bool)
deriving DecidableEq, Repr

/-- What a character means. -/
inductive Meaning where
  | goOn (stage : Stage) (read : List Char)
  | finish
  | refuse

/-- The character behind a backslash. -/
def escape (many : Bool) (c : Char) (read rest : List Char) : Meaning :=
  match c with
  | 'b' => .goOn .plain ('\x08' :: read)
  | 't' => .goOn .plain ('\t' :: read)
  | 'n' => .goOn .plain ('\n' :: read)
  | 'f' => .goOn .plain ('\x0c' :: read)
  | 'r' => .goOn .plain ('\r' :: read)
  | 'e' => .goOn .plain ('\x1b' :: read)
  | '"' => .goOn .plain ('"' :: read)
  | '\\' => .goOn .plain ('\\' :: read)
  | 'x' => .goOn (.hex 2 0) read
  | 'u' => .goOn (.hex 4 0) read
  | 'U' => .goOn (.hex 8 0) read
  | c =>
    if many && isGap c then .goOn (.join false) read
    else if many && c == '\n' then .goOn (.join true) read
    else if many && c == '\r' && rest.head? == some '\n' then .goOn (.join false) read
    else .refuse

/-- One more digit of a code point.  The last one completes a character, which surrogates and
numbers beyond the code space are not. -/
def hexDigit (left value : Nat) (c : Char) (read : List Char) : Meaning :=
  match Text.hexDigit? c with
  | none => .refuse
  | some d =>
    let value := 16 * value + d
    if 1 < left then .goOn (.hex (left - 1) value) read
    else if value.isValidChar then .goOn .plain (Char.ofNat value :: read)
    else .refuse

/-- A character when nothing is owed. -/
def plain (many : Bool) (c : Char) (read rest : List Char) : Meaning :=
  if c = '"' then
    if many && !closes '"' rest then .goOn .plain (c :: read) else .finish
  else if c = '\\' then .goOn .escape read
  else if (if many then isPlainOrBreak c rest else isPlain c) then .goOn .plain (c :: read)
  else .refuse

/-- What a character means at a stage. -/
def meaning (many : Bool) (stage : Stage) (c : Char) (read rest : List Char) : Meaning :=
  match stage with
  | .plain => plain many c read rest
  | .escape => escape many c read rest
  | .hex left value => hexDigit left value c read
  | .join broken =>
    if isGap c then .goOn (.join broken) read
    else if c = '\n' then .goOn (.join true) read
    else if c = '\r' ∧ rest.head? = some '\n' then .goOn (.join broken) read
    else if broken then plain many c read rest
    else .refuse

/-- Text in double quotes; `read` holds its characters so far in reverse. -/
def basic (many : Bool) (stage : Stage) (read : List Char) :
    List Char → Option (String × List Char)
  | [] => none
  | c :: rest => match meaning many stage c read rest with
    | .goOn stage read => basic many stage read rest
    | .refuse => none
    | .finish =>
      if many then some (closeLines '"' read (rest.drop 2))
      else some (String.ofList read.reverse, rest)

end Turnstile.Toml.Quoted
