/-
# Values of a TOML document

What a document holds once it has been read, with the entries of a table in the order of
their keys.

Numbers keep their exact value, since the format puts no bound on how they are written; `fits` says
whether all numbers of a value can be held in a machine's widest registers, which is asked of values
that nobody wants.  `fields` looks at a value as a record.
-/

namespace Turnstile.Toml

/-! ## 1. Values -/

/-- The size of a number with a fraction or an exponent. -/
inductive Magnitude where
  /-- Infinity, or no number at all. -/
  | special
  /-- `digits * 10 ^ exponent`. -/
  | scaled (digits : Nat) (exponent : Int)
deriving DecidableEq, Repr

/-- A value.  Of dates and times it matters only that they are ones. -/
inductive Value where
  | string (s : String)
  | integer (n : Int)
  | float (size : Magnitude)
  | boolean (b : Bool)
  | moment
  | array (items : List Value)
  | table (entries : List (String × Value))

/-! ## 2. Range -/

namespace Magnitude

/-- The least number that is nearer to infinity than to the largest double: half a step
beyond it. -/
def overflow : Nat := (1 <<< 54 - 1) <<< 970

/-- Whether a number rounds to a finite double, or is meant to be none.  The length of its digits
settles the question for all but a few, so that no huge power is ever computed. -/
def fits : Magnitude → Bool
  | special => true
  | scaled digits exponent =>
    let places := exponent + (Nat.toDigits 10 digits).length
    if digits = 0 || places < 308 then true
    else if 310 < places then false
    else if 0 ≤ exponent then digits * Nat.pow 10 exponent.toNat < overflow
    else digits < overflow * Nat.pow 10 (-exponent).toNat

end Magnitude

namespace Value

/-- How many numbers below zero there are in 128 bits with a sign. -/
def signed128 : Int := 170141183460469231731687303715884105728

mutual

/-- Whether every number in a value can be held: whole numbers in 128 bits with or without a
sign, others in a double. -/
def fits : Value → Bool
  | integer n => -signed128 ≤ n && n < 2 * signed128
  | float size => size.fits
  | array items => itemsFit items
  | table entries => entriesFit entries
  | _ => true

/-- Whether every number in a list of values can be held. -/
def itemsFit : List Value → Bool
  | [] => true
  | v :: vs => fits v && itemsFit vs

/-- Whether every number in the entries of a table can be held. -/
def entriesFit : List (String × Value) → Bool
  | [] => true
  | (_, v) :: es => fits v && entriesFit es

end

/-! ## 3. Records -/

/-- The fields of a record.  A table names them; an array gives them in the order of their
declaration, and what it holds beyond them is not looked at; a moment has none. -/
def fields? (names : List String) : Value → Option (List (String × Value))
  | table entries => some entries
  | array items => some (names.zip items)
  | moment => some []
  | _ => none

end Value

end Turnstile.Toml
