/-
# Blank characters

Rule text, addresses and configuration values are all trimmed and separated by the same
class of characters: those with the Unicode property `White_Space`.

* `isBlank` is that class, code point by code point;
* `trim` cuts blanks from both ends, `allBlank` says that nothing else is there.
-/

namespace Turnstile.Text

/-! ## 1. The class -/

/-- Code points with the property `White_Space`: tab to carriage return, the space, next
line, the no-break space, the typographic spaces and the two separators. -/
def isBlank (c : Char) : Bool :=
  let n := c.toNat
  (9 ≤ n && n ≤ 13) || n == 0x20 || n == 0x85 || n == 0xA0 || n == 0x1680 ||
    (0x2000 ≤ n && n ≤ 0x200A) || n == 0x2028 || n == 0x2029 || n == 0x202F ||
    n == 0x205F || n == 0x3000

/-! ## 2. Ends of a text -/

/-- Without the blanks in front. -/
def trimLeft (cs : List Char) : List Char :=
  cs.dropWhile isBlank

/-- Without the blanks at either end. -/
def trim (cs : List Char) : List Char :=
  (trimLeft (trimLeft cs).reverse).reverse

/-- Nothing but blanks, or nothing at all. -/
def allBlank (s : String) : Bool :=
  s.toList.all isBlank

end Turnstile.Text
