/-
# Durations

A span of time in nanoseconds, and its short text: the largest unit of which there is at
least one, with as many decimals as are needed.
-/

namespace Turnstile

/-- A span of time. -/
structure Duration where
  nanos : Nat
deriving DecidableEq, Repr

namespace Duration

/-- A number of seconds. -/
def ofSeconds (n : Nat) : Duration := ⟨n * 1000000000⟩

/-- A number of milliseconds. -/
def ofMillis (n : Nat) : Duration := ⟨n * 1000000⟩

/-- A number of microseconds. -/
def ofMicros (n : Nat) : Duration := ⟨n * 1000⟩

/-- Whole milliseconds. -/
def millis (d : Duration) : Nat := d.nanos / 1000000

/-- Whole seconds. -/
def seconds (d : Duration) : Nat := d.nanos / 1000000000

/-- Decimals of a part of a unit, without the zeros behind the last other digit. -/
def decimals (unit : Nat) : (places part : Nat) → List Char
  | 0, _ => []
  | places + 1, part =>
    if part = 0 then []
    else Nat.digitChar (10 * part / unit) :: decimals unit places (10 * part % unit)

/-- An amount in a unit of so many nanoseconds, of which there are at most nine decimals. -/
def inUnit (nanos unit : Nat) (name : String) : String :=
  let fraction := decimals unit 9 (nanos % unit)
  toString (nanos / unit) ++
    (if fraction.isEmpty then "" else "." ++ String.ofList fraction) ++ name

/-- The text of a duration. -/
def text (d : Duration) : String :=
  if 1000000000 ≤ d.nanos then inUnit d.nanos 1000000000 "s"
  else if 1000000 ≤ d.nanos then inUnit d.nanos 1000000 "ms"
  else if 1000 ≤ d.nanos then inUnit d.nanos 1000 "µs"
  else inUnit d.nanos 1 "ns"

end Duration

end Turnstile
