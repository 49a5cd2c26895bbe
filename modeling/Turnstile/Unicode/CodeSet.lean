/-
# Sets of code points

A set of code points is a sorted array of spans, each a run of code points at equal steps.  Tables
give a set in text form, with spans as `41-5A`, `5F` or, for every second code point, `100-12E/2`.
Membership is a binary search for the last span that starts at or below the code point.
-/
import Turnstile.Text.Number

namespace Turnstile.Unicode

open Turnstile.Text

/-! ## 1. Spans -/

/-- The code points `low`, `low + step`, and so on up to `high`. -/
structure Span where
  low : Nat
  high : Nat
  step : Nat
deriving Repr

namespace Span

/-- Whether a span holds a code point. -/
def contains (s : Span) (n : Nat) : Bool :=
  s.low ≤ n && n ≤ s.high && (n - s.low) % s.step == 0

/-- A span in text form. -/
def ofText (cs : List Char) : Option Span := do
  let (bounds, step) ← match cs.splitOn '/' with
    | [bounds] => some (bounds, 1)
    | [bounds, step] => (hex? step).map (bounds, ·)
    | _ => none
  match bounds.splitOn '-' with
  | [low] => (hex? low).map fun n => ⟨n, n, step⟩
  | [low, high] => do
    let low ← hex? low
    let high ← hex? high
    return ⟨low, high, step⟩
  | _ => none

end Span

/-! ## 2. Sets -/

/-- Spans in ascending order. -/
structure CodeSet where
  spans : Array Span
deriving Repr

namespace CodeSet

/-- A set in text form: spans with blanks between them, over any number of lines. -/
def ofLines (lines : List String) : CodeSet :=
  ⟨(lines.flatMap fun line => (line.toList.splitOn ' ').filterMap Span.ofText).toArray⟩

/-- Whether the last span of `spans[low..high)` that starts at or below `n` holds `n`. -/
def search (spans : Array Span) (n low high : Nat) : Bool :=
  if low < high then
    let middle := (low + high) / 2
    match spans[middle]? with
    | none => false
    | some span =>
      if n < span.low then search spans n low middle
      else span.contains n || search spans n (middle + 1) high
  else false
termination_by high - low

/-- Whether a set holds a code point. -/
def contains (s : CodeSet) (n : Nat) : Bool :=
  search s.spans n 0 s.spans.size

end CodeSet

end Turnstile.Unicode
