/-
# Bare values in TOML

Values written without quotes: truth values, whole numbers in four bases, numbers with a fraction or
an exponent, and moments.  `scalar?` reads one from its whole text.

Digits may be grouped by single underscores, each between two digits.  A decimal number has no zeros
in front, and only a decimal number has a sign.
-/
import Turnstile.Toml.Moment
import Turnstile.Toml.Value

namespace Turnstile.Toml

open Turnstile.Text

/-! ## 1. Digits -/

/-- The digits of a group of digits without its underscores. -/
def ungrouped? (isDigit : Char → Bool) : List Char → Option (List Char)
  | [] => none
  | [c] => if isDigit c then some [c] else none
  | c :: '_' :: rest => if isDigit c then (ungrouped? isDigit rest).map (c :: ·) else none
  | c :: rest => if isDigit c then (ungrouped? isDigit rest).map (c :: ·) else none

/-- The digits of a decimal number, which are a zero alone or begin with another digit. -/
def wholeDigits? (cs : List Char) : Option (List Char) := do
  let digits ← ungrouped? Char.isDigit cs
  if digits.length ≠ 1 ∧ digits.head? = some '0' then none else some digits

/-- Whether a sign in front is a minus, and what is behind it. -/
def signed : List Char → Bool × List Char
  | '-' :: rest => (true, rest)
  | '+' :: rest => (false, rest)
  | rest => (false, rest)

/-- A number with its sign. -/
def withSign (negative : Bool) (n : Nat) : Int :=
  if negative then -n else n

/-! ## 2. Whole numbers -/

/-- Digits of another base than ten. -/
def based? (base : Nat) (cs : List Char) : Option Value := do
  let digits ← ungrouped? (fun c => (hexDigit? c).any (· < base)) cs
  return .integer (← inBase? base digits)

/-- A whole number. -/
def integer? (cs : List Char) : Option Value :=
  match cs with
  | '0' :: 'x' :: rest => based? 16 rest
  | '0' :: 'o' :: rest => based? 8 rest
  | '0' :: 'b' :: rest => based? 2 rest
  | cs => do
    let (negative, cs) := signed cs
    let n ← decimal? (← wholeDigits? cs)
    return .integer (withSign negative n)

/-! ## 3. Other numbers -/

/-- What stands before a sign, and behind it if it is there. -/
def splitAt (isSign : Char → Bool) (cs : List Char) : List Char × Option (List Char) :=
  match cs.span (!isSign ·) with
  | (front, _ :: back) => (front, some back)
  | (front, []) => (front, none)

/-- An exponent; none counts as zero. -/
def exponent? : Option (List Char) → Option Int
  | none => some 0
  | some cs => do
    let (negative, cs) := signed cs
    let n ← decimal? (← ungrouped? Char.isDigit cs)
    return withSign negative n

/-- The decimals of a number; none at all if it has no point. -/
def decimals? : Option (List Char) → Option (List Char)
  | none => some []
  | some cs => ungrouped? Char.isDigit cs

/-- A number with a fraction, an exponent or both. -/
def float? (cs : List Char) : Option Value := do
  let (_, cs) := signed cs
  if cs == ['i', 'n', 'f'] || cs == ['n', 'a', 'n'] then return .float .special
  let (mantissa, power) := splitAt (fun c => c == 'e' || c == 'E') cs
  let (whole, fraction) := splitAt (· == '.') mantissa
  if power.isNone ∧ fraction.isNone then none
  else
    let whole ← wholeDigits? whole
    let fraction ← decimals? fraction
    let exponent ← exponent? power
    let digits ← decimal? (whole ++ fraction)
    return .float (.scaled digits (exponent - fraction.length))

/-! ## 4. All of them -/

/-- A truth value. -/
def boolean? : List Char → Option Value
  | ['t', 'r', 'u', 'e'] => some (.boolean true)
  | ['f', 'a', 'l', 's', 'e'] => some (.boolean false)
  | _ => none

/-- A date, a time or both. -/
def moment? (cs : List Char) : Option Value :=
  if Moment.isMoment cs then some .moment else none

/-- A value written without quotes.  No text can be read in two ways. -/
def scalar? (cs : List Char) : Option Value :=
  boolean? cs <|> integer? cs <|> float? cs <|> moment? cs

end Turnstile.Toml
