/-
# Patterns

A pattern is a text that is a regular expression, and that still is one between anchors: a comment
or an open bracket must not reach beyond the end of the text.  It matches a value as a whole.

The type holds the expression between its anchors together with the text, so patterns are
equal exactly when their texts are (`Pattern.eq_iff`).
-/
import Turnstile.Pattern.Reader
import Turnstile.Pattern.Search
import Turnstile.Pattern.Size

namespace Turnstile.Pattern

/-! ## 1. Compilation -/

/-- The expression of a text, unless its size is refused. -/
def compile (cs : List Char) : Except Fault Regex := do
  let r ← read cs
  if isTooLarge r then throw .tooLarge
  return r

/-- A text in a group between the anchors of a value. -/
def anchored (cs : List Char) : List Char :=
  "\\A(?:".toList ++ cs ++ ")\\z".toList

end Turnstile.Pattern

namespace Turnstile

/-- A text that compiles alone and between anchors. -/
structure Pattern where
  source : String
  regex : Regex
  alone : (Pattern.compile source.toList).isOk = true
  compiled : Pattern.compile (Pattern.anchored source.toList) = .ok regex

namespace Pattern

/-- Compiles a text. -/
def ofSource (source : String) : Except Fault Pattern :=
  match alone : compile source.toList with
  | .error e => .error e
  | .ok _ => match compiled : compile (anchored source.toList) with
    | .error e => .error e
    | .ok regex => .ok ⟨source, regex, by simp [alone, Except.isOk, Except.toBool], compiled⟩

/-- Whether a value matches from its first to its last character. -/
def isFullMatch (p : Pattern) (value : String) : Bool :=
  p.regex.isMatch value.toList

/-! ## 2. Equality -/

theorem eq_iff (p q : Pattern) : p = q ↔ p.source = q.source := by
  refine ⟨fun h => h ▸ rfl, fun h => ?_⟩
  obtain ⟨s, r, ha, hc⟩ := p
  obtain ⟨t, u, hb, hd⟩ := q
  obtain rfl : s = t := h
  obtain rfl : r = u := by
    rw [hc] at hd
    exact Except.ok.inj hd
  rfl

instance : DecidableEq Pattern := fun p q => decidable_of_iff _ (eq_iff p q).symm

theorem source_ofSource {source : String} {p : Pattern} (h : ofSource source = .ok p) :
    p.source = source := by
  unfold ofSource at h
  split at h
  · cases h
  · split at h
    · cases h
    · cases h; rfl

end Pattern

end Turnstile
