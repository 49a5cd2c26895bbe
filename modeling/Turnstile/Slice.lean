/-
# Slices with their bounds checked

Places of arrays, slices of them, offsets into text, which count the bytes of UTF-8, and the width
of machine words.  To leave the bounds is a `Fault` and ends the program, which is not the same as
to reject an input: a `Reading` fails softly where its input is malformed, and stops where the
program itself is wrong.
-/

namespace Turnstile

/-- What ends a program that leaves the bounds of an array, of a text or of a word. -/
inductive Fault where
  /-- A place or the end of a slice lies behind the end. -/
  | outOfRange
  /-- A slice is filled from one of another length. -/
  | lengths
  /-- A text is cut inside a character. -/
  | insideCharacter
  /-- An unsigned difference falls below zero. -/
  | underflow
  /-- A bit that is set leaves its word, or a shift is as wide as the word. -/
  | lostBits
deriving DecidableEq, Repr

/-- A computation that accepts its input with a value, rejects it, or is stopped by a fault. -/
abbrev Reading (α : Type) : Type :=
  OptionT (Except Fault) α

namespace Slice

variable {α : Type}

/-- The program ends here. -/
def stop (fault : Fault) : Reading α :=
  OptionT.mk (.error fault)

/-! ## 1. Arrays -/

/-- The value at a place. -/
def get (xs : List α) (i : Nat) : Reading α :=
  match xs[i]? with
  | some x => pure x
  | none => stop .outOfRange

/-- The array with another value at a place. -/
def set (xs : List α) (i : Nat) (x : α) : Reading (List α) :=
  if i < xs.length then pure (xs.set i x) else stop .outOfRange

/-- The array with the slice from `start` to `finish` filled from another slice. -/
def fill (xs : List α) (start finish : Nat) (ys : List α) : Reading (List α) :=
  if start ≤ finish ∧ finish ≤ xs.length then
    if ys.length = finish - start then pure (xs.take start ++ ys ++ xs.drop finish)
    else stop .lengths
  else stop .outOfRange

/-- The array in front of a place and behind it. -/
def split (xs : List α) (i : Nat) : Reading (List α × List α) :=
  if i ≤ xs.length then pure (xs.take i, xs.drop i) else stop .outOfRange

/-- A difference of unsigned numbers. -/
def minus (m n : Nat) : Reading Nat :=
  if n ≤ m then pure (m - n) else stop .underflow

/-! ## 2. Texts -/

/-- The text before and behind an offset. -/
def cut : (offset : Nat) → List Char → Reading (List Char × List Char)
  | 0, cs => pure ([], cs)
  | _ + 1, [] => stop .outOfRange
  | offset + 1, c :: cs =>
    if c.utf8Size ≤ offset + 1 then do
      let (front, back) ← cut (offset + 1 - c.utf8Size) cs
      return (c :: front, back)
    else stop .insideCharacter

/-- The offset of the first occurrence of a pattern. -/
def find? (pattern : List Char) : List Char → Option Nat
  | [] => if pattern.isEmpty then some 0 else none
  | c :: cs =>
    if pattern.isPrefixOf (c :: cs) then some 0
    else (find? pattern cs).map (c.utf8Size + ·)

/-! ## 3. Words -/

/-- A word in fewer bits, from which it can be had back. -/
def narrow {w : Nat} (v : Nat) (x : BitVec w) : Reading (BitVec v) :=
  if (x.setWidth v).setWidth w = x then pure (x.setWidth v) else stop .lostBits

/-- A word moved towards its most significant bit, from where it can be moved back. -/
def shiftUp {w : Nat} (x : BitVec w) (places : Nat) : Reading (BitVec w) :=
  if places < w ∧ (x <<< places) >>> places = x then pure (x <<< places) else stop .lostBits

end Slice

end Turnstile
