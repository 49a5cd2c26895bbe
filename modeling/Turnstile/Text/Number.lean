/-
# Numbers written in digits

Readers for unsigned numbers in ASCII digits.  A reader takes the whole text or nothing: no sign, no
separators, no blanks.  The written form of a number is `toString`, and `decimal?` reads it back
(`decimal?_toDigits`).
-/

namespace Turnstile.Text

/-! ## 1. Decimal -/

/-- The number that a non-empty run of decimal digits stands for. -/
def decimal? (cs : List Char) : Option Nat :=
  if !cs.isEmpty && cs.all Char.isDigit then some (Nat.ofDigitChars 10 cs 0) else none

theorem decimal?_toDigits (n : Nat) : decimal? (Nat.toDigits 10 n) = some n := by
  have hne : Nat.toDigits 10 n ≠ [] := Nat.toDigits_ne_nil
  have hall : (Nat.toDigits 10 n).all Char.isDigit = true :=
    List.all_eq_true.2 fun _ h => Nat.isDigit_of_mem_toDigits (by decide) (by decide) h
  simp [decimal?, hne, hall, Nat.ofDigitChars_toDigits]

/-! ## 2. Other bases -/

/-- The value of a hexadecimal digit of either case. -/
def hexDigit? (c : Char) : Option Nat :=
  if '0' ≤ c ∧ c ≤ '9' then some (c.toNat - '0'.toNat)
  else if 'a' ≤ c ∧ c ≤ 'f' then some (c.toNat - 'a'.toNat + 10)
  else if 'A' ≤ c ∧ c ≤ 'F' then some (c.toNat - 'A'.toNat + 10)
  else none

/-- The number that a run of digits stands for in a base of at most sixteen; `none` at the first
character that is no digit of the base.  The empty run stands for zero. -/
def inBase? (base : Nat) (cs : List Char) : Option Nat :=
  cs.foldlM (fun n c => (hexDigit? c).bind fun d =>
    if d < base then some (base * n + d) else none) 0

/-- A non-empty run of hexadecimal digits. -/
def hex? (cs : List Char) : Option Nat :=
  if cs.isEmpty then none else inBase? 16 cs

/-- Two lower-case hexadecimal digits for each byte. -/
def hexBytes (bytes : List Nat) : String :=
  String.ofList (bytes.flatMap fun b => [Nat.digitChar (b / 16 % 16), Nat.digitChar (b % 16)])

end Turnstile.Text
