/-
# Size of patterns

A pattern that would take too large a machine to match is refused.  The machine reads bytes, and
has a state for each byte of each copy of a repeated part, so a class beyond ASCII is first cut
into rows of byte ranges in UTF-8 (`rows`), and rows that start alike share the states of their
start (`newNodes`).  A numbered group has a state at either end.  `weight` adds up the sizes of the
states, and `isTooLarge` compares them with the limit.

There are two machines, one for each direction, and the larger one counts.  If all classes lie in
ASCII that is the one that reads forwards, and its size is the weight.  A class beyond ASCII takes
more room backwards, where groups take none, so a pattern with both is weighed as if one machine
had all of it: too much by 64 bytes for a numbered group that is repeated with such a class, which
alone takes thousands.  Alternatives that start with one and the same class are weighed one by one,
though the machine has that class once.  Patterns of these two kinds may be refused a little below
the limit; all others are refused beyond it and not before.
-/
import Turnstile.Pattern.Regex

namespace Turnstile.Pattern

/-! ## 1. Runs of code points -/

/-- A run of code points or of bytes, both ends included. -/
structure Run where
  low : Nat
  high : Nat
deriving DecidableEq, Repr

/-- Spans of code points at which sets are examined, without the ends.  Surrogates are no
characters; the other code points left out are private or not assigned, and next to no set tells
them apart. -/
def examined : List (Nat × Nat) :=
  [(0, 0xD800), (0xE000, 0x33480), (0xE0000, 0xE01F1)]

/-- Takes one more code point into the runs so far and the start of a run that goes on. -/
def extend (s : CharSet) (n : Nat) (acc : Array Run × Option Nat) : Array Run × Option Nat :=
  match acc.2, s.mem (Char.ofNat n) with
  | none, true => (acc.1, some n)
  | some low, false => (acc.1.push ⟨low, n - 1⟩, none)
  | _, _ => acc

/-- The runs of a set in ascending order. -/
def runsOf (s : CharSet) : List Run :=
  let (runs, start) := examined.foldl (fun acc (low, stop) =>
    Nat.fold (stop - low) (fun i _ acc => extend s (low + i) acc) acc) (#[], none)
  match start with
  | some low => (runs.push ⟨low, 0x10FFFF⟩).toList
  | none => runs.toList

/-! ## 2. Rows of byte ranges -/

/-- Any byte that continues a character, without its two leading bits. -/
def anyTail : Run := ⟨0, 63⟩

/-- Cuts the numbers of a run into rows, where each number has a leading part and `tails`
digits of six bits: in a row every digit has a range of its own. -/
def rows : (tails : Nat) → Run → List (List Run)
  | 0, r => [[r]]
  | tails + 1, r =>
    let unit := 1 <<< (6 * (tails + 1))
    let first := r.low / unit
    let last := r.high / unit
    if first = last then
      (rows tails ⟨r.low % unit, r.high % unit⟩).map (⟨first, first⟩ :: ·)
    else
      let cutLow := r.low % unit != 0
      let cutHigh := r.high % unit != unit - 1
      let below := if cutLow then
        (rows tails ⟨r.low % unit, unit - 1⟩).map (⟨first, first⟩ :: ·) else []
      let above := if cutHigh then
        (rows tails ⟨0, r.high % unit⟩).map (⟨last, last⟩ :: ·) else []
      let middle : Run := ⟨if cutLow then first + 1 else first, if cutHigh then last - 1 else last⟩
      below ++ (if middle.low ≤ middle.high then
        [middle :: List.replicate (tails + 1) anyTail] else []) ++ above

/-- The code points of each length in UTF-8, with the number of continuing bytes and the
mark on the leading byte. -/
def encodings : List (Nat × Nat × Run) :=
  [(0, 0, ⟨0, 0x7F⟩), (1, 0xC0, ⟨0x80, 0x7FF⟩), (2, 0xE0, ⟨0x800, 0xD7FF⟩),
    (2, 0xE0, ⟨0xE000, 0xFFFF⟩), (3, 0xF0, ⟨0x10000, 0x10FFFF⟩)]

/-- The rows of a run of code points. -/
def rowsOf (r : Run) : List (List Run) :=
  encodings.flatMap fun (tails, mark, span) =>
    let low := max r.low span.low
    let high := min r.high span.high
    let marked := mark <<< (6 * tails)
    if low ≤ high then rows tails ⟨marked + low, marked + high⟩ else []

/-- How many ranges of a row are not in the common start with the row before it. -/
def newNodes : (before row : List Run) → Nat
  | b :: bs, r :: rs => if b = r then newNodes bs rs else rs.length + 1
  | _, row => row.length

/-! ## 3. Classes -/

/-- The size of the states for a class, in bytes. -/
def classWeight (s : CharSet) : Nat :=
  match runsOf s with
  | [] => 32
  | [⟨low, high⟩] =>
    if low = high then 32 * (Char.ofNat low).utf8Size else spread [⟨low, high⟩]
  | runs => spread runs
where
  /-- The size for runs that hold several characters. -/
  spread (runs : List Run) : Nat :=
    if runs.all fun r => r.high < 0x80 then 64 + 8 * runs.length
    else
      let all := runs.flatMap rowsOf
      let nodes := (([] :: all).zipWith newNodes all).foldl (· + ·) 0
      64 + 4 * all.length + 32 * nodes

/-! ## 4. Expressions -/

/-- Whether an expression can match the empty text. -/
def maybeEmpty : Regex → Bool
  | .empty => true
  | .look _ => true
  | .set _ => false
  | .seq a b => maybeEmpty a && maybeEmpty b
  | .alt a b => maybeEmpty a || maybeEmpty b
  | .group r => maybeEmpty r
  | .iterate r least _ => least == 0 || maybeEmpty r

/-- Whether an expression can match only the empty text. -/
def onlyEmpty : Regex → Bool
  | .empty => true
  | .look _ => true
  | .set _ => false
  | .seq a b => onlyEmpty a && onlyEmpty b
  | .alt a b => onlyEmpty a && onlyEmpty b
  | .group r => onlyEmpty r
  | .iterate r _ most => onlyEmpty r || most == some 0

/-- The size of the states for so many copies of a part.  A copy that may be left out has a fork
in front, and where the copies need not end there is one that leads back. -/
def copies (one : Nat) (maybeEmpty : Bool) : (least : Nat) → (most : Option Nat) → Nat
  | _, some 0 => 32
  | least, some most =>
    if least = most then least * one else least * one + (most - least) * (one + 40) + 32
  | 0, none => if maybeEmpty then one + 112 else one + 40
  | least, none => least * one + 40

/-- What an alternative that is one itself saves: its fork and its end are those of the whole. -/
def saving : Regex → Nat
  | .alt _ _ => 68
  | _ => 0

/-- The size of the states for an expression, where `leaf` gives that of a class.  A part that is
always empty is repeated once at most. -/
def weight (leaf : CharSet → Nat) : Regex → Nat
  | .empty => 32
  | .look _ => 32
  | .set s => leaf s
  | .seq a b => weight leaf a + weight leaf b
  | .alt a b => (weight leaf a - saving a) + (weight leaf b - saving b) + 72
  | .group r => weight leaf r + 64
  | .iterate r least most =>
    if onlyEmpty r then copies (weight leaf r) true (min least 1) (some (min (most.getD 1) 1))
    else copies (weight leaf r) (maybeEmpty r) least most

/-- The size of the machine: the whole is a group too, and a match is one more state. -/
def machine (leaf : CharSet → Nat) (r : Regex) : Nat :=
  weight leaf (.group r) + 32

/-- The largest machine that is allowed, in bytes. -/
def maxWeight : Nat := 10 <<< 20

/-- Whether a pattern is refused for its size.  Classes are examined only if the pattern could
pass the limit at all. -/
def isTooLarge (r : Regex) : Bool :=
  maxWeight < machine (fun _ => 0x18000) r && maxWeight < machine classWeight r

end Turnstile.Pattern
