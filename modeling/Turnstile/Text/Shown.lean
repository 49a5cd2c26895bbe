/-
# Shown strings

The form in which a string is shown in a message: in double quotes, with an escape for each
character that would not show as itself.  Those are the quote, the backslash, controls, separators
and unassigned code points, and the characters that would join the one before them.
-/
import Turnstile.Unicode.Property

namespace Turnstile.Text

open Turnstile.Unicode Turnstile.Unicode.Category

/-- Whether a code point shows as itself. -/
def isPrintable (n : Nat) : Bool :=
  n == 0x20 ||
    !(inAny [control, format, privateUse, lineSeparator, paragraphSeparator, spaceSeparator] n ||
      isUnassigned n)

/-- One character of a shown string. -/
def shownChar (c : Char) : List Char :=
  match c with
  | '\x00' => ['\\', '0']
  | '\t' => ['\\', 't']
  | '\r' => ['\\', 'r']
  | '\n' => ['\\', 'n']
  | '"' => ['\\', '"']
  | '\\' => ['\\', '\\']
  | c =>
    if isPrintable c.toNat && !isGraphemeExtend c.toNat then [c]
    else ['\\', 'u', '\x7b'] ++ Nat.toDigits 16 c.toNat ++ ['\x7d']

/-- A string as messages show it. -/
def shown (s : String) : String :=
  String.ofList ('"' :: s.toList.flatMap shownChar ++ ['"'])

end Turnstile.Text
