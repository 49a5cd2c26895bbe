/-
# Dates and times in TOML

A moment is a date, a time of day, or a date and a time of day with or without an offset from
universal time.  Months have the days of the calendar, a minute may have a leap second, and seconds
may be left out.
-/
import Turnstile.Text.Number

namespace Turnstile.Toml.Moment

open Turnstile.Text

/-! ## 1. Parts -/

/-- A number of exactly so many digits, within bounds. -/
def part (digits least most : Nat) (cs : List Char) : Option (Nat × List Char) := do
  let n ← decimal? (cs.take digits)
  if (cs.take digits).length = digits ∧ least ≤ n ∧ n ≤ most then some (n, cs.drop digits)
  else none

/-- One sign. -/
def sign (c : Char) : List Char → Option (List Char)
  | d :: rest => if d = c then some rest else none
  | [] => none

/-- Whether a year has a leap day. -/
def isLeap (year : Nat) : Bool :=
  year % 4 == 0 && (year % 100 != 0 || year % 400 == 0)

/-- How many days a month has. -/
def daysIn (year month : Nat) : Nat :=
  match month with
  | 2 => if isLeap year then 29 else 28
  | 4 | 6 | 9 | 11 => 30
  | _ => 31

/-- A date.  Gives the rest of the text. -/
def date (cs : List Char) : Option (List Char) := do
  let (year, cs) ← part 4 0 9999 cs
  let (month, cs) ← part 2 1 12 (← sign '-' cs)
  let (_, cs) ← part 2 1 (daysIn year month) (← sign '-' cs)
  return cs

/-- Decimals of a second. -/
def fraction : List Char → Option (List Char)
  | '.' :: rest =>
    let (digits, rest) := rest.span Char.isDigit
    if digits.isEmpty then none else some rest
  | rest => some rest

/-- Seconds, if there are any. -/
def seconds : List Char → Option (List Char)
  | ':' :: rest => do
    let (_, rest) ← part 2 0 60 rest
    fraction rest
  | rest => some rest

/-- A time of day. -/
def time (cs : List Char) : Option (List Char) := do
  let (_, cs) ← part 2 0 23 cs
  let (_, cs) ← part 2 0 59 (← sign ':' cs)
  seconds cs

/-- An offset from universal time, if there is one. -/
def offset : List Char → Option (List Char)
  | [] => some []
  | c :: rest =>
    if c = 'Z' ∨ c = 'z' then some rest
    else if c = '+' ∨ c = '-' then do
      let (_, rest) ← part 2 0 23 rest
      let (_, rest) ← part 2 0 59 (← sign ':' rest)
      return rest
    else none

/-! ## 2. Moments -/

/-- What may follow a date: a separator and a time of day, with an offset or without. -/
def afterDate : List Char → Option (List Char)
  | [] => some []
  | c :: rest => do
    if c = 'T' ∨ c = 't' ∨ c = ' ' then offset (← time rest) else none

/-- Whether a text is a date. -/
def isDate (cs : List Char) : Bool :=
  date cs == some []

/-- Whether a text is a moment. -/
def isMoment (cs : List Char) : Bool :=
  (date cs).bind afterDate == some [] || time cs == some []

end Turnstile.Toml.Moment
