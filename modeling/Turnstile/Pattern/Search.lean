/-
# Searching

A set of positions is a number: position `i` is in it when bit `i` is set.  For a fixed text an
expression is a map from sets of positions to sets of positions: from where a match may start to
where it may end.

* `Route` is an expression whose leaves have been tested at every position of a text, so
  that a leaf is one bit operation;
* `Route.ends` is the map; repetition grows a set until nothing is added;
* `Regex.isMatch` says whether a text has a match anywhere in it.
-/
import Turnstile.Pattern.Regex

namespace Turnstile

/-! ## 1. Routes -/

/-- An expression over one text. -/
inductive Route where
  | stay
  /-- Moves over a character at the given positions. -/
  | move (positions : Nat)
  /-- Stays at the given positions. -/
  | only (positions : Nat)
  | seq (a b : Route)
  | alt (a b : Route)
  | iterate (r : Route) (least : Nat) (most : Option Nat)

/-- The set of the positions at which a list of tests is true. -/
def positionsOf : List Bool → Nat
  | [] => 0
  | b :: bs => 2 * positionsOf bs + b.toNat

/-- The characters before and behind each position of a text. -/
def sides (before : Option Char) : List Char → List (Option Char × Option Char)
  | [] => [(before, none)]
  | c :: cs => (before, some c) :: sides (some c) cs

namespace Route

/-- Tests the leaves of an expression at every position of a text. -/
def ofRegex (text : List Char) : Regex → Route
  | .empty => stay
  | .set s => move (positionsOf (text.map s.mem))
  | .look l => only (positionsOf ((sides none text).map fun p => l.holds p.1 p.2))
  | .seq a b => seq (ofRegex text a) (ofRegex text b)
  | .alt a b => alt (ofRegex text a) (ofRegex text b)
  | .group r => ofRegex text r
  | .iterate r least most => iterate (ofRegex text r) least most

/-! ## 2. Positions -/

/-- Adds what a map reaches, up to `rounds` times, and stops when nothing is added. -/
def grow (f : Nat → Nat) : (rounds : Nat) → Nat → Nat
  | 0, s => s
  | rounds + 1, s =>
    let t := s ||| f s
    if t = s then s else grow f rounds t

/-- A map applied a number of times; a set that it leaves alone stays. -/
def power (f : Nat → Nat) : (times : Nat) → Nat → Nat
  | 0, s => s
  | times + 1, s =>
    let t := f s
    if t = s then s else power f times t

/-- Where a match may end that starts in a set of positions.  A repetition without bound needs no
more rounds than there are positions. -/
def ends (positions : Nat) : Route → Nat → Nat
  | stay, s => s
  | move at_, s => (s &&& at_) <<< 1
  | only at_, s => s &&& at_
  | seq a b, s => ends positions b (ends positions a s)
  | alt a b, s => ends positions a s ||| ends positions b s
  | iterate r least most, s =>
    let rounds := match most with
      | some m => m - least
      | none => positions
    if most.any (· < least) then 0
    else grow (ends positions r) rounds (power (ends positions r) least s)

end Route

/-! ## 3. Texts -/

namespace Regex

/-- Whether some part of a text matches. -/
def isMatch (r : Regex) (text : List Char) : Bool :=
  let positions := text.length + 1
  (Route.ofRegex text r).ends positions (1 <<< positions - 1) != 0

end Regex

end Turnstile
