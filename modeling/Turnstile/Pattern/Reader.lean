/-
# Reading patterns

A pattern is read from left to right into a regular expression.  The reader's state holds the branch
that is being read, the branches before it, and the groups that are open around it; flags hold to
the end of the group that sets them.  Since a state says all that matters about the text already
read, a group is read in the same way wherever it stands.

* `step` reads one part: a group sign, a repetition sign, a class, an escape or a
  character;
* `read` runs it over a whole pattern, and refuses a tree that is nested too deep.
-/
import Turnstile.Pattern.Bracket

namespace Turnstile.Pattern

open Turnstile.Text

/-! ## 1. State -/

/-- One part of a branch.  Flags take up a place of their own, which cannot be repeated. -/
inductive Item where
  | flags
  | part (r : Regex) (depth : Nat)

namespace Item

/-- The expression of a part. -/
def regex : Item → Regex
  | flags => .empty
  | part r _ => r

/-- How deep the tree of a part is. -/
def depth : Item → Nat
  | flags => 0
  | part _ d => d

end Item

/-- An expression with the depth of its tree. -/
structure Tree where
  regex : Regex
  depth : Nat

/-- The inside of a group, or the whole pattern: finished branches and the parts of the
current one, both with the latest first. -/
structure Scope where
  branches : List Tree := []
  items : List Item := []

namespace Scope

/-- Parts one after the other; two or more make a node. -/
def sequence (items : List Item) : Tree where
  regex := .seqs (items.reverse.filterMap fun
    | .flags => none
    | .part r _ => some r)
  depth :=
    let deepest := (items.map Item.depth).foldl max 0
    if items.length ≤ 1 then deepest else deepest + 1

/-- Branches side by side; two or more make a node. -/
def choice (branches : List Tree) : Tree where
  regex := .anyOf (branches.reverse.map Tree.regex)
  depth :=
    let deepest := (branches.map Tree.depth).foldl max 0
    if branches.length ≤ 1 then deepest else deepest + 1

/-- The whole inside. -/
def tree (s : Scope) : Tree :=
  choice (sequence s.items :: s.branches)

/-- Adds a part to the current branch. -/
def add (s : Scope) (r : Regex) (depth : Nat) : Scope :=
  { s with items := .part r depth :: s.items }

end Scope

/-- A group that is open: what comes back behind it, and whether it is numbered. -/
structure Frame where
  flags : Flags
  scope : Scope
  numbered : Bool

/-- What has been read.  `outer` holds the groups around the current scope, innermost first. -/
structure State where
  flags : Flags := {}
  scope : Scope := {}
  outer : List Frame := []
  names : List (List Char) := []

namespace State

/-- Adds a part to the current branch. -/
def add (st : State) (r : Regex) (depth : Nat := 0) : State :=
  { st with scope := st.scope.add r depth }

/-- Opens a group with flags of its own. -/
def openGroup (st : State) (flags : Flags) (numbered : Bool) : State :=
  { st with flags, scope := {}, outer := ⟨st.flags, st.scope, numbered⟩ :: st.outer }

/-- Closes the innermost group, which becomes a part of the branch around it. -/
def closeGroup (st : State) : Except Fault State :=
  match st.outer with
  | [] => .error .unopenedGroup
  | ⟨flags, scope, numbered⟩ :: outer =>
    let t := st.scope.tree
    let r := if numbered then .group t.regex else t.regex
    .ok { st with flags, outer, scope := scope.add r (t.depth + 1) }

/-- Ends the current branch and starts another one. -/
def nextBranch (st : State) : State :=
  { st with scope :=
      { branches := .mk (Scope.sequence st.scope.items).regex
          (Scope.sequence st.scope.items).depth :: st.scope.branches } }

/-- Repeats the latest part of the branch. -/
def iterate (st : State) (least : Nat) (most : Option Nat) : Except Fault State :=
  match st.scope.items with
  | .part r depth :: items =>
    .ok { st with scope :=
      { st.scope with items := .part (.iterate r least most) (depth + 1) :: items } }
  | _ => .error .nothingToRepeat

end State

/-! ## 2. Repetition -/

/-- A count of at most 32 bits, with blanks around it. -/
def count (verbose : Bool) (cs : List Char) : Except Fault (Nat × List Char) :=
  let (digits, rest) := collect verbose Char.isDigit (cs.dropWhile isBlank)
  match decimal? digits with
  | some n => if n < UInt32.size then .ok (n, rest.dropWhile isBlank) else .error .badRepetition
  | none => .error .badRepetition

/-- The inside of repetition braces: a count, a lower bound, or both bounds. -/
def bounds (verbose : Bool) (cs : List Char) :
    Except Fault ((Nat × Option Nat) × List Char) := do
  let (least, rest) ← count verbose (skip verbose cs)
  match rest with
  | '}' :: rest => return ((least, some least), rest)
  | ',' :: rest => match skip verbose rest with
    | '}' :: rest => return ((least, none), rest)
    | rest => match ← count verbose rest with
      | (most, '}' :: rest) =>
        if least ≤ most then return ((least, some most), rest) else throw .badRepetition
      | _ => throw .badRepetition
  | _ => throw .badRepetition

/-- A question mark behind a repetition makes it lazy, which changes no match of a whole
text. -/
def dropLazy : List Char → List Char
  | '?' :: rest => rest
  | rest => rest

/-! ## 3. Groups -/

/-- The characters of a group's name. -/
def isNameChar (first : Bool) (c : Char) : Bool :=
  let n := c.toNat
  if first then c == '_' || Unicode.isAlphabetic n
  else c == '_' || c == '.' || c == '[' || c == ']' ||
    Unicode.isAlphabetic n || Unicode.isNumeric n

/-- A group's name up to the closing bracket.  No two groups share a name. -/
def groupName (taken : List (List Char)) (cs : List Char) :
    Except Fault (List Char × List Char) :=
  match cs.span (· != '>') with
  | (first :: more, _ :: rest) =>
    if isNameChar true first && more.all (isNameChar false) && !taken.contains (first :: more)
    then .ok (first :: more, rest) else .error .badGroupName
  | _ => .error .badGroupName

/-- Flags up to the end of their list: letters that are set, and behind one hyphen letters that are
cleared.  Gives back the sign that ended the list and the letters seen. -/
def flagList (flags : Flags) (seen : List Char) (value dangling : Bool) :
    List Char → Except Fault (Flags × List Char × Char × List Char)
  | [] => .error .badFlags
  | c :: cs =>
    if c = ':' ∨ c = ')' then
      if dangling then .error .badFlags else .ok (flags, seen, c, cs)
    else if seen.contains c then .error .badFlags
    else if c = '-' then flagList flags (c :: seen) false true cs
    else match flags.set c value with
      | some flags => flagList flags (c :: seen) value false cs
      | none => .error .badFlags

/-- What stands behind the bracket that opens a group. -/
def group (st : State) (cs : List Char) : Except Fault (State × List Char) :=
  let named (cs : List Char) : Except Fault (State × List Char) := do
    let (name, rest) ← groupName st.names cs
    return ({ st.openGroup st.flags true with names := name :: st.names }, rest)
  match skip st.flags.verbose cs with
  | '?' :: '=' :: _ | '?' :: '!' :: _ | '?' :: '<' :: '=' :: _ | '?' :: '<' :: '!' :: _ =>
    .error .lookAround
  | '?' :: 'P' :: '<' :: rest => named rest
  | '?' :: '<' :: rest => named rest
  | '?' :: rest => do
    let (flags, seen, sign, rest) ← flagList st.flags [] true false rest
    if sign = ':' then return (st.openGroup flags false, rest)
    else if seen.isEmpty then throw .nothingToRepeat
    else
      return ({ st with flags, scope := { st.scope with items := .flags :: st.scope.items } },
        rest)
  | rest => .ok (st.openGroup st.flags true, rest)

/-! ## 4. The whole pattern -/

/-- Adds an atom, its characters folded as the flags say. -/
def State.addAtom (st : State) : Atom → State
  | .char c => st.add (.set (st.flags.fold (.single c)))
  | .set s => st.add (.set s)
  | .look l => st.add (.look l)

/-- Reads one part of a pattern, from a text that is not empty. -/
def step (st : State) (c : Char) (cs : List Char) : Except Fault (State × List Char) :=
  match c with
  | '(' => group st cs
  | ')' => return (← st.closeGroup, cs)
  | '|' => return (st.nextBranch, cs)
  | '[' => do
    let (s, rest) ← Bracket.read st.flags cs
    return (st.add (.set s.set) s.depth, rest)
  | '?' => return (← st.iterate 0 (some 1), dropLazy cs)
  | '*' => return (← st.iterate 0 none, dropLazy cs)
  | '+' => return (← st.iterate 1 none, dropLazy cs)
  | '{' => do
    let ((least, most), rest) ← bounds st.flags.verbose cs
    return (← st.iterate least most, dropLazy (skip st.flags.verbose rest))
  | '\\' => do
    let (a, rest) ← Escape.read st.flags cs
    return (st.addAtom a, rest)
  | '.' => return (st.add (.set (← st.flags.dot)), cs)
  | '^' => return (st.add (.look st.flags.caret), cs)
  | '$' => return (st.add (.look st.flags.dollar), cs)
  | c => return (st.addAtom (.char c), cs)

/-- Reads parts until the text ends.  Every part takes at least one character, so the fuel, one more
than the characters left, is never used up. -/
def run : (fuel : Nat) → State → List Char → Except Fault State
  | 0, _, _ => .error .openGroup
  | fuel + 1, st, cs => match skip st.flags.verbose cs with
    | [] => if st.outer.isEmpty then .ok st else .error .openGroup
    | c :: cs => do
      let (st, rest) ← step st c cs
      run fuel st rest

/-- The deepest tree that a pattern may have. -/
def maxDepth : Nat := 250

/-- The regular expression of a pattern. -/
def read (cs : List Char) : Except Fault Regex := do
  let st ← run (cs.length + 1) {} cs
  let t := st.scope.tree
  if maxDepth < t.depth then throw .tooDeep
  return t.regex

end Turnstile.Pattern
