/-
# Regular expressions

The expression tree, and what it means: `Regex.Spans text r i j` says that `r` matches the
part of `text` between the positions `i` and `j`.  Greediness has no place here, since all that is
asked of an expression is where it can match.  A group that is numbered matches what its inside
does, and is there for the room that it takes (`weight`).

Assertions look at the characters on either side of a position (`Look.holds`).
-/
import Turnstile.Pattern.CharSet

namespace Turnstile

/-! ## 1. Trees -/

/-- Which sides of a position have to be part of a word. -/
inductive Edge where
  /-- Exactly one side. -/
  | either
  /-- Both sides or none. -/
  | neither
  /-- Only the side behind. -/
  | start
  /-- Only the side before. -/
  | stop
  /-- Not the side before. -/
  | startHalf
  /-- Not the side behind. -/
  | stopHalf
deriving DecidableEq, Repr

/-- A condition on a position, which takes up no characters. -/
inductive Look where
  | textStart
  | textEnd
  /-- The start of a line, where carriage returns end lines too if `crlf` is set. -/
  | lineStart (crlf : Bool)
  /-- The end of a line, under the same rule. -/
  | lineEnd (crlf : Bool)
  /-- An edge of a word, in all of Unicode or in ASCII. -/
  | wordEdge (edge : Edge) (unicode : Bool)
deriving DecidableEq, Repr

/-- A regular expression. -/
inductive Regex where
  | empty
  | set (s : CharSet)
  | look (l : Look)
  | seq (a b : Regex)
  | alt (a b : Regex)
  /-- A group that is numbered. -/
  | group (r : Regex)
  /-- At least `least` times, and at most `most` times if there is a bound. -/
  | iterate (r : Regex) (least : Nat) (most : Option Nat)

/-! ## 2. Assertions -/

namespace Edge

/-- Whether the sides of a position are as an edge wants them. -/
def holds : Edge → (before behind : Bool) → Bool
  | either, a, b => a != b
  | neither, a, b => a == b
  | start, a, b => !a && b
  | stop, a, b => a && !b
  | startHalf, a, _ => !a
  | stopHalf, _, b => !b

end Edge

namespace Look

/-- Whether a character is there and belongs to a word. -/
def inWord (unicode : Bool) : Option Char → Bool
  | some c => (CharSet.word unicode).mem c
  | none => false

/-- Whether an assertion holds between two characters, each of which may be missing at an end of the
text.  A carriage return and a line feed behind it end a line together. -/
def holds (l : Look) (before behind : Option Char) : Bool :=
  match l with
  | textStart => before.isNone
  | textEnd => behind.isNone
  | lineStart false => before.isNone || before == some '\n'
  | lineEnd false => behind.isNone || behind == some '\n'
  | lineStart true => before.isNone || before == some '\n' ||
      (before == some '\r' && behind != some '\n')
  | lineEnd true => behind.isNone || behind == some '\r' ||
      (behind == some '\n' && before != some '\r')
  | wordEdge edge unicode => edge.holds (inWord unicode before) (inWord unicode behind)

/-- Whether an assertion holds at a position of a text. -/
def holdsAt (l : Look) (text : List Char) (i : Nat) : Bool :=
  l.holds (if i = 0 then none else text[i - 1]?) text[i]?

end Look

/-! ## 3. Meaning -/

namespace Regex

/-- A chain of `n` steps of a relation. -/
inductive Chain (step : Nat → Nat → Prop) : Nat → Nat → Nat → Prop where
  | zero (i : Nat) : Chain step 0 i i
  | succ {n i j k : Nat} : step i j → Chain step n j k → Chain step (n + 1) i k

/-- The expression matches the part of the text between two positions. -/
def Spans (text : List Char) : Regex → Nat → Nat → Prop
  | empty, i, j => i ≤ text.length ∧ j = i
  | set s, i, j => j = i + 1 ∧ ∃ c, text[i]? = some c ∧ s.mem c = true
  | look l, i, j => i ≤ text.length ∧ j = i ∧ l.holdsAt text i = true
  | seq a b, i, j => ∃ k, Spans text a i k ∧ Spans text b k j
  | alt a b, i, j => Spans text a i j ∨ Spans text b i j
  | group r, i, j => Spans text r i j
  | iterate r least most, i, j =>
    i ≤ text.length ∧ ∃ n, least ≤ n ∧ (∀ m, most = some m → n ≤ m) ∧ Chain (Spans text r) n i j

/-- Expressions one after the other. -/
def seqs : List Regex → Regex
  | [] => empty
  | [r] => r
  | r :: rs => seq r (seqs rs)

/-- One of several expressions; none of an empty list. -/
def alts : List Regex → Regex
  | [] => set .nothing
  | [r] => r
  | r :: rs => alt r (alts rs)

/-- The sets of expressions, if all of them are sets. -/
def sets? : List Regex → Option (List CharSet)
  | [] => some []
  | set s :: rs => (sets? rs).map (s :: ·)
  | _ => none

/-- One of several expressions.  If there are two at least, and each is a set, they are one set. -/
def anyOf (rs : List Regex) : Regex :=
  match sets? rs with
  | some (s :: t :: sets) => set (.unions (s :: t :: sets))
  | _ => alts rs

end Regex

end Turnstile
