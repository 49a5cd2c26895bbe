/-
# Signs of a JSON text

`tokens?` cuts a text into signs: punctuation, texts in double quotes, numbers and the three literal
words.  Only spaces, tabs and line breaks separate.
-/
import Turnstile.Json.Value
import Turnstile.Text.Number

namespace Turnstile.Json

/-- A sign. -/
inductive Token where
  | openArray
  | closeArray
  | openObject
  | closeObject
  | comma
  | colon
  | text (s : Option String)
  /-- A number or a literal word. -/
  | plain (v : Value)

namespace Token

/-! ## 1. Texts -/

/-- What is owed inside a text. -/
inductive Stage where
  | nothing
  /-- The character behind a backslash. -/
  | escape
  /-- Digits of a unit of 16 bits, of which some have been read. -/
  | unit (left value : Nat)
deriving DecidableEq, Repr

/-- A character inside a text, when it is not the closing quote: the next stage, and the code
points so far in reverse. -/
def textChar (stage : Stage) (c : Char) (read : List Nat) : Option (Stage × List Nat) :=
  match stage with
  | .nothing =>
    if c = '\\' then some (.escape, read)
    else if c.toNat < 0x20 then none
    else some (.nothing, c.toNat :: read)
  | .escape => match c with
    | '"' | '\\' | '/' => some (.nothing, c.toNat :: read)
    | 'b' => some (.nothing, 8 :: read)
    | 't' => some (.nothing, 9 :: read)
    | 'n' => some (.nothing, 10 :: read)
    | 'f' => some (.nothing, 12 :: read)
    | 'r' => some (.nothing, 13 :: read)
    | 'u' => some (.unit 4 0, read)
    | _ => none
  | .unit left value => do
    let value := 16 * value + (← Text.hexDigit? c)
    return if 1 < left then (.unit (left - 1) value, read) else (.nothing, value :: read)

/-- A text from behind its first quote: its code points, and the rest. -/
def textBody (stage : Stage) (read : List Nat) : List Char → Option (List Nat × List Char)
  | [] => none
  | c :: rest =>
    if stage = .nothing ∧ c = '"' then some (read.reverse, rest)
    else match textChar stage c read with
      | some (stage, read) => textBody stage read rest
      | none => none

/-- Units that are the first half of a pair. -/
def isHigh (n : Nat) : Bool :=
  0xD800 ≤ n && n < 0xDC00

/-- Units that are the second half of a pair. -/
def isLow (n : Nat) : Bool :=
  0xDC00 ≤ n && n < 0xE000

/-- Characters of code points, two halves making one; `none` at a half that stands alone. -/
def characters : List Nat → Option (List Char)
  | [] => some []
  | high :: rest =>
    if isHigh high then match rest with
      | low :: rest =>
        if isLow low then
          let n := 0x10000 + 0x400 * (high - 0xD800) + (low - 0xDC00)
          (characters rest).map (Char.ofNat n :: ·)
        else none
      | [] => none
    else if isLow high then none
    else (characters rest).map (Char.ofNat high :: ·)

/-! ## 2. Numbers -/

/-- One or more digits.  Gives the rest. -/
def digits (cs : List Char) : Option (List Char) :=
  match cs with
  | c :: rest => if c.isDigit then some (rest.dropWhile Char.isDigit) else none
  | [] => none

/-- Without a minus in front. -/
def dropMinus : List Char → List Char
  | '-' :: rest => rest
  | rest => rest

/-- Without a sign in front. -/
def dropSign : List Char → List Char
  | '+' :: rest => rest
  | rest => dropMinus rest

/-- The whole part of a number, with no zeros in front of other digits. -/
def whole : List Char → Option (List Char)
  | '0' :: rest => some rest
  | rest => digits rest

/-- The decimals of a number, if there are any. -/
def fraction : List Char → Option (List Char)
  | '.' :: rest => digits rest
  | rest => some rest

/-- The exponent of a number, if there is one. -/
def exponent : List Char → Option (List Char)
  | 'e' :: rest => digits (dropSign rest)
  | 'E' :: rest => digits (dropSign rest)
  | rest => some rest

/-- A number.  Gives the rest. -/
def number (cs : List Char) : Option (List Char) := do
  exponent (← fraction (← whole (dropMinus cs)))

/-! ## 3. All signs -/

/-- Characters that separate. -/
def isSpace (c : Char) : Bool :=
  c == ' ' || c == '\t' || c == '\n' || c == '\r'

/-- The first sign of a text that is not blank in front. -/
def first? (cs : List Char) : Option (Token × List Char) :=
  match cs with
  | '[' :: rest => some (openArray, rest)
  | ']' :: rest => some (closeArray, rest)
  | '\x7b' :: rest => some (openObject, rest)
  | '\x7d' :: rest => some (closeObject, rest)
  | ',' :: rest => some (comma, rest)
  | ':' :: rest => some (colon, rest)
  | '"' :: rest => do
    let (points, rest) ← textBody .nothing [] rest
    return (text ((characters points).map String.ofList), rest)
  | 'n' :: 'u' :: 'l' :: 'l' :: rest => some (plain .null, rest)
  | 't' :: 'r' :: 'u' :: 'e' :: rest => some (plain (.boolean true), rest)
  | 'f' :: 'a' :: 'l' :: 's' :: 'e' :: rest => some (plain (.boolean false), rest)
  | cs => (number cs).map fun rest => (plain .number, rest)

/-- Cuts a text into signs, which it adds to those before.  Each takes at least one character, so
the fuel, one more than the characters left, is never used up. -/
def scan : (fuel : Nat) → (before : List Token) → List Char → Option (List Token)
  | 0, _, _ => none
  | fuel + 1, before, cs => match cs.dropWhile isSpace with
    | [] => some before.reverse
    | cs => (first? cs).bind fun t => scan fuel (t.1 :: before) t.2

end Token

/-- The signs of a text. -/
def tokens? (text : String) : Option (List Token) :=
  Token.scan (text.toList.length + 1) [] text.toList

end Turnstile.Json
