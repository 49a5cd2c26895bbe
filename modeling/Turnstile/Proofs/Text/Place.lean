/-
# Places in a text

A position is kept character by character while a text is read.  Here it is told by what stands in
front of it, all at once: the bytes of the characters, the line feeds among them, and the characters
behind the last line feed (`Position.behind`).  One more character leads from one of these positions
to the next (`after_behind`), so all positions that a reader comes to are of this form.

A position is in a text if it stands behind the first so many characters of it (`Position.IsIn`):
then its offset lies between two characters, or at an end of the text.
-/
import Mathlib.Data.List.DropRight
import Turnstile.Text.Position

namespace Turnstile.Text.Position

/-- The position behind some characters at the start of a text: as many bytes as they take, one line
more than there are line feeds among them, and one column more than there are characters behind the
last of these, or in all. -/
def behind (cs : List Char) : Position where
  offset := (String.ofList cs).utf8ByteSize
  line := 1 + cs.count '\n'
  column := 1 + (cs.rtakeWhile (· ≠ '\n')).length

/-- The position stands in the text, at its start, at its end or between two characters. -/
def IsIn (p : Position) (text : List Char) : Prop :=
  ∃ front back, text = front ++ back ∧ p = behind front

theorem behind_nil : behind [] = start := rfl

theorem offset_behind_append (cs ds : List Char) :
    (behind (cs ++ ds)).offset = (behind cs).offset + (String.ofList ds).utf8ByteSize := by
  simp [behind, String.ofList_append]

/-- **One more character.**  A position is a function of the text in front of it, and this is the
step of that function. -/
theorem after_behind (cs : List Char) (c : Char) : (behind cs).after c = behind (cs ++ [c]) := by
  have hoffset : (behind (cs ++ [c])).offset = (behind cs).offset + c.utf8Size := by
    rw [offset_behind_append]
    simp
  by_cases hc : c = '\n'
  · subst hc
    rw [after, if_pos rfl, ← hoffset]
    simp [behind, Nat.add_assoc]
  · rw [after, if_neg hc, ← hoffset]
    simp [behind, hc, Nat.add_assoc]

/-- Characters make the offset greater, by the number of bytes that they are written with, which is
never zero. -/
theorem offset_behind_lt (cs : List Char) {ds : List Char} (h : ds ≠ []) :
    (behind cs).offset < (behind (cs ++ ds)).offset := by
  rw [offset_behind_append]
  have hsize : (String.ofList ds).utf8ByteSize ≠ 0 := by simpa using h
  omega

/-- A position in a text is also in a longer one, so positions stay good while the scanner goes
on. -/
theorem IsIn.append {p : Position} {text : List Char} (h : p.IsIn text) (more : List Char) :
    p.IsIn (text ++ more) := by
  obtain ⟨front, back, rfl, rfl⟩ := h
  exact ⟨front, back ++ more, by simp, rfl⟩

/-- A position in a text is some place: lines and columns begin at one, which the unknown position
does not. -/
theorem IsIn.ne_unknown {p : Position} {text : List Char} (h : p.IsIn text) : p ≠ unknown := by
  obtain ⟨front, back, -, rfl⟩ := h
  intro e
  have hline := congrArg line e
  simp [behind, unknown] at hline

end Turnstile.Text.Position
