/-
# Sets of characters

The classes of a regular expression.  A set is an expression over ranges and named properties;
`CharSet.mem` gives it meaning, and each operation means what its name says (`mem_union`,
`mem_complement` and so on).  Ignoring case is an operation on sets too: a character is in
`folded s` when some case variant of it is in `s`.
-/
import Turnstile.Unicode.CaseFold
import Turnstile.Unicode.Property

namespace Turnstile

/-- An expression for a set of characters. -/
inductive CharSet where
  | nothing
  /-- The characters between two, both included. -/
  | range (low high : Char)
  /-- The characters whose code point passes a test. -/
  | codes (test : Nat → Bool)
  | union (a b : CharSet)
  | inter (a b : CharSet)
  | diff (a b : CharSet)
  /-- What is in one of the two sets but not in both. -/
  | symmDiff (a b : CharSet)
  | complement (a : CharSet)
  /-- Characters with a case variant in the set. -/
  | folded (a : CharSet)
  /-- The same for the cases of ASCII letters only. -/
  | foldedAscii (a : CharSet)

namespace CharSet

/-! ## 1. Membership -/

/-- An ASCII letter in the other case; other characters stay. -/
def swapAscii (c : Char) : Char :=
  if c.isUpper then c.toLower else c.toUpper

/-- Whether a set holds a character. -/
def mem : CharSet → Char → Bool
  | nothing, _ => false
  | range low high, c => low ≤ c && c ≤ high
  | codes test, c => test c.toNat
  | union a b, c => a.mem c || b.mem c
  | inter a b, c => a.mem c && b.mem c
  | diff a b, c => a.mem c && !b.mem c
  | symmDiff a b, c => a.mem c != b.mem c
  | complement a, c => !a.mem c
  | folded a, c => (Unicode.CaseFold.variants c).any a.mem
  | foldedAscii a, c => a.mem c || a.mem (swapAscii c)

/-! ## 2. Sets with a name -/

/-- One character. -/
def single (c : Char) : CharSet := range c c

/-- Every character. -/
def any : CharSet := complement nothing

/-- The union of several sets. -/
def unions (sets : List CharSet) : CharSet :=
  sets.foldl union nothing

/-- Decimal digits. -/
def digit (unicode : Bool) : CharSet :=
  if unicode then .codes Unicode.Category.decimalNumber.contains else range '0' '9'

/-- Blanks. -/
def space (unicode : Bool) : CharSet :=
  if unicode then .codes Unicode.isWhiteSpace
  else unions [range '\t' '\r', single ' ']

/-- The characters of words. -/
def word (unicode : Bool) : CharSet :=
  if unicode then .codes Unicode.isWord
  else unions [range '0' '9', range 'A' 'Z', single '_', range 'a' 'z']

/-- The sets that bracketed names such as `[:alpha:]` stand for, all within ASCII. -/
def posix? (name : String) : Option CharSet :=
  match name with
  | "alnum" => some (unions [range '0' '9', range 'A' 'Z', range 'a' 'z'])
  | "alpha" => some (unions [range 'A' 'Z', range 'a' 'z'])
  | "ascii" => some (range '\x00' '\x7f')
  | "blank" => some (unions [single '\t', single ' '])
  | "cntrl" => some (unions [range '\x00' '\x1f', single '\x7f'])
  | "digit" => some (range '0' '9')
  | "graph" => some (range '!' '~')
  | "lower" => some (range 'a' 'z')
  | "print" => some (range ' ' '~')
  | "punct" => some (unions [range '!' '/', range ':' '@', range '[' '\x60', range '\x7b' '~'])
  | "space" => some (unions [range '\t' '\r', single ' '])
  | "upper" => some (range 'A' 'Z')
  | "word" => some (unions [range '0' '9', range 'A' 'Z', single '_', range 'a' 'z'])
  | "xdigit" => some (unions [range '0' '9', range 'A' 'F', range 'a' 'f'])
  | _ => none

/-! ## 3. Laws -/

theorem mem_unions (sets : List CharSet) (c : Char) :
    (unions sets).mem c = sets.any fun s => s.mem c := by
  suffices h : ∀ a : CharSet,
      (sets.foldl union a).mem c = (a.mem c || sets.any fun s => s.mem c) by
    simpa [unions, mem] using h nothing
  induction sets with
  | nil => simp
  | cons s ss ih => intro a; simp [ih, mem, Bool.or_assoc]

end CharSet

end Turnstile
