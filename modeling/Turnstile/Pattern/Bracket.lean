/-
# Bracketed classes

A class lists characters, ranges, escapes, named sets such as `[:alpha:]` and nested classes, and
combines such lists with `&&`, `--` and `~~` from left to right.  The reader keeps a stack of the
classes and left operands that are open (`Pending`); `Bracket.read` takes the text behind the first
bracket and gives back the rest.

Each value carries how deep its tree is, since patterns have a limit on that.
-/
import Turnstile.Pattern.Escape

namespace Turnstile.Pattern.Bracket

open Turnstile.Text

/-! ## 1. Values -/

/-- A set with the depth of the tree that describes it. -/
structure Deep where
  set : CharSet
  depth : Nat

/-- The members listed so far: their union, how many there are, the deepest of them. -/
structure Members where
  set : CharSet := .nothing
  count : Nat := 0
  depth : Nat := 0

namespace Members

/-- Adds one member. -/
def add (m : Members) (s : CharSet) (depth : Nat) : Members :=
  ⟨.union m.set s, m.count + 1, max m.depth depth⟩

/-- The list as one value; two or more members make a node of their own. -/
def value (m : Members) : Deep :=
  ⟨m.set, if m.count ≤ 1 then m.depth else m.depth + 1⟩

end Members

/-- How two lists are combined. -/
inductive Operator where
  | both
  | without
  | one
deriving DecidableEq, Repr

/-- The result of an operator. -/
def Operator.apply : Operator → CharSet → CharSet → CharSet
  | both, a, b => .inter a b
  | without, a, b => .diff a b
  | one, a, b => .symmDiff a b

/-- What is open: a class, with the members of the class around it, or an operator with
its left side. -/
inductive Pending where
  | class (outer : Members) (negated : Bool)
  | operator (op : Operator) (left : Deep)

/-- Completes an operator that waits for its right side.  Cases are folded before the sides are
combined. -/
def reduce (f : Flags) (right : Deep) : List Pending → Deep × List Pending
  | .operator op left :: stack =>
    (⟨op.apply (f.fold left.set) (f.fold right.set), max left.depth right.depth + 1⟩, stack)
  | stack => (right, stack)

/-! ## 2. Members -/

/-- A named set behind its opening bracket.  What is no such set is read as a class. -/
def posix? (f : Flags) (cs : List Char) : Option (Except Fault CharSet × List Char) :=
  match cs with
  | ':' :: cs =>
    let (negated, cs) := match cs with
      | '^' :: rest => (true, rest)
      | _ => (false, cs)
    match cs.span (· != ':') with
    | (name, ':' :: ']' :: rest) =>
      (CharSet.posix? (String.ofList name)).map fun s => (f.negate negated (f.fold s), rest)
    | _ => none
  | _ => none

/-- One member or one end of a range. -/
def atom (f : Flags) : List Char → Except Fault (Atom × List Char)
  | [] => .error .badClass
  | '\\' :: cs => Escape.read f cs
  | c :: cs => .ok (.char c, cs)

/-- A character of a class.  Without Unicode classes hold ASCII only. -/
def member (f : Flags) (c : Char) : Except Fault Char :=
  if f.unicode || c.toNat < 0x80 then .ok c else .error .unicodeOff

/-- A member that is no range. -/
def single (f : Flags) : Atom → Except Fault CharSet
  | .char c => return .single (← member f c)
  | .set s => .ok s
  | .look _ => .error .badClass

/-- One end of a range. -/
def bound (f : Flags) : Atom → Except Fault Char
  | .char c => member f c
  | _ => .error .badRange

/-- A member or a range.  A hyphen makes a range unless a closing bracket or a second hyphen comes
behind it. -/
def range (f : Flags) (cs : List Char) : Except Fault (CharSet × List Char) := do
  let (first, rest) ← atom f cs
  match skip f.verbose rest with
  | [] => throw .badClass
  | '-' :: behind =>
    if peek f.verbose behind == some ']' || peek f.verbose behind == some '-' then
      return (← single f first, '-' :: behind)
    let (last, rest) ← atom f (skip f.verbose behind)
    let low ← bound f first
    let high ← bound f last
    if high < low then throw .badRange
    return (.range low high, rest)
  | rest => return (← single f first, rest)

/-- The head of a class behind its bracket: the negation sign, then hyphens or one closing
bracket that stand for themselves. -/
def opening (f : Flags) (cs : List Char) : Except Fault (Bool × Members × List Char) := do
  let (negated, cs) := match skip f.verbose cs with
    | '^' :: cs => (true, skip f.verbose cs)
    | cs => (false, cs)
  let (hyphens, cs) := collect f.verbose (· == '-') cs
  let members := hyphens.foldl (fun m c => Members.add m (.single c) 0) ({} : Members)
  match cs with
  | [] => throw .badClass
  | ']' :: rest =>
    if hyphens.isEmpty then return (negated, members.add (.single ']') 0, skip f.verbose rest)
    else return (negated, members, cs)
  | _ => return (negated, members, cs)

/-! ## 3. Classes -/

/-- Starts the right side of an operator. -/
def operator (f : Flags) (op : Operator) (members : Members) (stack : List Pending) :
    List Pending :=
  let (left, stack) := reduce f members.value stack
  .operator op left :: stack

/-- What a round leads to: the end of the outermost class, or more of it. -/
inductive Next where
  | done (value : Deep) (rest : List Char)
  | more (members : Members) (stack : List Pending) (rest : List Char)

/-- One round, from a character that counts: a member, a range, an operator, or the beginning or end
of a class. -/
def round (f : Flags) (members : Members) (stack : List Pending) :
    List Char → Except Fault Next
  | [] => .error .badClass
  | '[' :: rest => match posix? f rest with
    | some (s, rest) => do return .more (members.add (← s) 0) stack rest
    | none => do
      let (negated, inner, rest) ← opening f rest
      return .more inner (.class members negated :: stack) rest
  | ']' :: rest => match reduce f members.value stack with
    | (value, .class outer negated :: stack) => do
      let s ← f.negate negated (f.fold value.set)
      if stack.isEmpty then return .done ⟨s, value.depth + 1⟩ rest
      else return .more (outer.add s (value.depth + 1)) stack rest
    | _ => .error .badClass
  | '&' :: '&' :: rest => return .more {} (operator f .both members stack) rest
  | '-' :: '-' :: rest => return .more {} (operator f .without members stack) rest
  | '~' :: '~' :: rest => return .more {} (operator f .one members stack) rest
  | cs => do
    let (s, rest) ← range f cs
    return .more (members.add s 0) stack rest

/-- Reads on to the end of the outermost class.  Every round takes at least one character, so the
fuel, one more than the characters left, is never used up. -/
def close (f : Flags) : (fuel : Nat) → Members → List Pending → List Char →
    Except Fault (Deep × List Char)
  | 0, _, _, _ => .error .badClass
  | fuel + 1, members, stack, cs => do
    match ← round f members stack (skip f.verbose cs) with
    | .done value rest => return (value, rest)
    | .more members stack rest => close f fuel members stack rest

/-- A class, from the text behind its opening bracket. -/
def read (f : Flags) (cs : List Char) : Except Fault (Deep × List Char) := do
  let (negated, members, rest) ← opening f cs
  close f (rest.length + 1) members [.class {} negated] rest

end Turnstile.Pattern.Bracket
