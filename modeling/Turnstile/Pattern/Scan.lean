/-
# Scanning patterns

Steps over the text of a pattern that all its readers share.  In verbose mode blanks and comments
may stand between any two characters of a construct; `skip` drops them, and `collect` drops them on
the way.
-/
import Turnstile.Text.Blank

namespace Turnstile.Pattern

open Turnstile.Text

/-! ## 1. Blanks and comments -/

/-- Drops blanks, and comments from a number sign to the end of the line.  The first argument says
whether a comment is open. -/
def skipVerbose : (comment : Bool) → List Char → List Char
  | _, [] => []
  | true, c :: cs => skipVerbose (c != '\n') cs
  | false, c :: cs =>
    if isBlank c then skipVerbose false cs
    else if c = '#' then skipVerbose true cs
    else c :: cs

/-- Drops what means nothing in front of a text. -/
def skip (verbose : Bool) (cs : List Char) : List Char :=
  if verbose then skipVerbose false cs else cs

/-! ## 2. Runs -/

/-- The longest run of characters that pass a test, without what verbose mode drops, and
the rest. -/
def collectFrom (verbose : Bool) (p : Char → Bool) :
    (comment : Bool) → List Char → List Char × List Char
  | _, [] => ([], [])
  | true, c :: cs => collectFrom verbose p (c != '\n') cs
  | false, c :: cs =>
    if verbose && isBlank c then collectFrom verbose p false cs
    else if verbose && c == '#' then collectFrom verbose p true cs
    else if p c then
      let (run, rest) := collectFrom verbose p false cs
      (c :: run, rest)
    else ([], c :: cs)

/-- A run that starts with the first character or behind what verbose mode drops. -/
def collect (verbose : Bool) (p : Char → Bool) (cs : List Char) : List Char × List Char :=
  collectFrom verbose p false cs

/-- The character that decides whether a hyphen in a class makes a range: the next one, or
in verbose mode the next one that is neither blank nor the first number sign. -/
def peek (verbose : Bool) (cs : List Char) : Option Char :=
  if verbose then go false cs else cs.head?
where
  /-- The first character that counts, where a number sign may have been passed. -/
  go : (passed : Bool) → List Char → Option Char
    | _, [] => none
    | passed, c :: cs =>
      if isBlank c then go passed cs
      else if c == '#' && !passed then go true cs
      else some c

end Turnstile.Pattern
