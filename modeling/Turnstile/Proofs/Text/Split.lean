/-
# Splitting at a sign

A text is cut at every occurrence of a sign, and pieces are joined with a sign between them.  To
join what was cut gives the text back, whatever it holds.  To cut what was joined gives the pieces
back just if none of them holds the sign (`splitOn_intercalate_iff`): what comes out of a cut never
does (`not_mem_of_mem_splitOn`).  Parts of an address and lines of the output are both told apart in
this way.
-/

namespace Turnstile.Text

variable {x : Char}

/-- **No piece of a cut holds the sign.**  The piece in front grows by the characters that are not
the sign, and every other piece is one of the cut of the rest. -/
theorem not_mem_of_mem_splitOn {cs piece : List Char} (h : piece ∈ cs.splitOn x) : x ∉ piece := by
  induction cs generalizing piece with
  | nil =>
    obtain rfl : piece = [] := by simpa using h
    exact List.not_mem_nil
  | cons c cs ih =>
    obtain ⟨first, rest, hsplit⟩ := List.exists_cons_of_ne_nil (List.splitOn_ne_nil x cs)
    rw [List.splitOn_cons_eq_if_modifyHead, hsplit] at h
    rw [hsplit] at ih
    split at h
    · rcases List.mem_cons.1 h with rfl | h
      · exact List.not_mem_nil
      · exact ih h
    · next hc =>
      rcases List.mem_cons.1 h with rfl | h
      · have hne : x ≠ c := fun heq => hc (beq_iff_eq.2 heq.symm)
        simp [hne, ih List.mem_cons_self]
      · exact ih (List.mem_cons_of_mem first h)

/-- **Joined pieces are told apart again just if none of them holds the sign.**  Nothing else is
asked of the pieces; they may be empty. -/
theorem splitOn_intercalate_iff {pieces : List (List Char)} (hne : pieces ≠ []) :
    ([x].intercalate pieces).splitOn x = pieces ↔ ∀ piece ∈ pieces, x ∉ piece := by
  refine ⟨fun h piece hpiece => ?_, fun h => List.splitOn_intercalate x h hne⟩
  rw [← h] at hpiece
  exact not_mem_of_mem_splitOn hpiece

end Turnstile.Text
