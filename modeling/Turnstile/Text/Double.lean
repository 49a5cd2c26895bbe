/-
# Shortest text of a double

Whole numbers are printed the way double-precision numbers print: rounded to the nearest double, and
with the fewest digits that read back as that double, zeros filling the places behind them.  Up to
`2 ^ 53` every whole number is a double and prints as it is.

* `nearest` rounds to 53 bits, ties to the even side;
* `shortest` takes the coarsest decimal grid that has a point within the reals that round
  to the double, and on it the point nearest to the double.
-/

namespace Turnstile.Text.Double

/-! ## 1. Rounding -/

/-- A double that is a whole number: `mantissa * 2 ^ exponent`. -/
structure Whole where
  mantissa : Nat
  exponent : Nat
deriving DecidableEq, Repr

namespace Whole

/-- The number itself. -/
def value (d : Whole) : Nat :=
  d.mantissa <<< d.exponent

end Whole

/-- The double nearest to a number; of two that are as near, the one with an even
mantissa. -/
def nearest (n : Nat) : Whole :=
  if n < 1 <<< 53 then ⟨n, 0⟩
  else
    let exponent := n.log2 - 52
    let unit := 1 <<< exponent
    let below := n / unit
    let up := unit < 2 * (n % unit) || (unit == 2 * (n % unit) && below % 2 == 1)
    let mantissa := if up then below + 1 else below
    if mantissa = 1 <<< 53 then ⟨1 <<< 52, exponent + 1⟩ else ⟨mantissa, exponent⟩

/-! ## 2. Shortest text -/

/-- Whether a number rounds to a double.  The reals that do reach half way to the doubles on either
side, ends included when the mantissa is even; below a power of two the doubles are twice as close.
All is counted in quarters of the last place. -/
def roundsTo (d : Whole) (n : Nat) : Bool :=
  let quarters := 4 * n
  let last := 1 <<< d.exponent
  let middle := 4 * d.value
  let high := middle + 2 * last
  let low := middle - (if d.mantissa = 1 <<< 52 then last else 2 * last)
  if d.mantissa % 2 = 0 then low ≤ quarters && quarters ≤ high
  else low < quarters && quarters < high

/-- The point of the grid of multiples of `10 ^ places` that is nearest to a double, if it
rounds to the double. -/
def onGrid (d : Whole) (places : Nat) : Option Nat :=
  let step := Nat.pow 10 places
  let below := d.value / step * step
  let above := below + step
  let near := if above - d.value < d.value - below then above else below
  let far := if near = below then above else below
  if roundsTo d near then some near
  else if roundsTo d far then some far
  else none

/-- The first grid with a point that rounds to the double, from the coarsest on. -/
def firstGrid (d : Whole) : (places : Nat) → Nat
  | 0 => d.value
  | places + 1 => (onGrid d (places + 1)).getD (firstGrid d places)

/-- The number with the fewest digits that rounds to the same double. -/
def shortest (n : Nat) : Nat :=
  let d := nearest n
  if d.exponent = 0 then d.value else firstGrid d ((Nat.toDigits 10 d.value).length)

/-- The text of a whole number, positive or not. -/
def text (n : Int) : String :=
  match n with
  | .ofNat n => toString (shortest n)
  | .negSucc n => "-" ++ toString (shortest (n + 1))

end Turnstile.Text.Double
