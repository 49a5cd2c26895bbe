/-
# Backslash pairs

Read from the left, a backslash goes with the character behind it, whatever that is.  Two
questions about such pairs decide how the source of a pattern can be written between
slashes: whether one of them is a backslash and a slash (`slashPair`), and whether the last
backslash has no partner (`openPair`).  Both take whether a backslash is waiting in front of
the text.
-/

namespace Turnstile.Text

/-- Whether a backslash is paired with a slash. -/
def slashPair : (escaped : Bool) → List Char → Bool
  | _, [] => false
  | escaped, c :: cs => (escaped && c == '/') || slashPair (!escaped && c == '\\') cs

/-- Whether a backslash is left without a partner. -/
def openPair : (escaped : Bool) → List Char → Bool
  | escaped, [] => escaped
  | escaped, c :: cs => openPair (!escaped && c == '\\') cs

theorem openPair_append (escaped : Bool) (cs ds : List Char) :
    openPair escaped (cs ++ ds) = openPair (openPair escaped cs) ds := by
  induction cs generalizing escaped with
  | nil => rfl
  | cons c cs ih => exact ih _

/-- Only a last backslash can be left without a partner, since every other one takes the character
behind it. -/
theorem openPair_of_getLast? : ∀ {cs : List Char}, cs.getLast? ≠ some '\\' →
    openPair false cs = false
  | [], _ => rfl
  | [c], h => by simpa [openPair] using h
  | c :: d :: cs, h => by
    have htail : (d :: cs).getLast? ≠ some '\\' := by simpa using h
    cases hc : c == '\\' with
    | false => simpa [openPair, hc] using openPair_of_getLast? htail
    | true =>
      cases cs with
      | nil => simp [openPair, hc]
      | cons e cs =>
        have hrest : (e :: cs).getLast? ≠ some '\\' := by simpa using htail
        simpa [openPair, hc] using openPair_of_getLast? hrest

theorem openPair_concat {cs : List Char} {c : Char} (h : c ≠ '\\') :
    openPair false (cs ++ [c]) = false :=
  openPair_of_getLast? (by simpa using h)

end Turnstile.Text
