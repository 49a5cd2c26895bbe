/-
# The grammar of rules

The grammar that rules are written in, as a type of derivations, apart from the parser that
reads them.  A derivation says which alternative was taken at each place; what it derives
are its signs, and what it means is its tree.

    rule        := disjunction "=>" word
    disjunction := conjunction ("||" conjunction)*
    conjunction := negation ("&&" negation)*
    negation    := "!" negation | "(" disjunction ")" | test

A test carries the value of its literal with the reason why the literal is valid, and a
header carries the reason why its name is no keyword, so whatever has this type is well
formed.  Nothing bounds the nesting here: `nesting` counts it, and the bound is the
parser's.

**Unique reading** is proved in section 4: signs have at most one derivation
(`Sentence.signs_injective`).  The argument is one-sign lookahead.  An operand ends by
itself, while a conjunction goes on exactly as long as `&&` follows and a disjunction as long
as `||` does, so two derivations of one text take the same alternative at every place.
-/
import Turnstile.Rule.Parser

namespace Turnstile.Grammar

/-! ## 1. Tests -/

/-- What a test of a text is about: the host, or a header under any name but the words that
begin the other tests. -/
inductive Subject where
  | host
  | header (name : String) (free : name ∉ ["IP", "Host", "Hits"])

namespace Subject

/-- The word that a subject is written as. -/
def word : Subject → String
  | host => "Host"
  | header name _ => name

/-- The field that a subject stands for. -/
def field : Subject → Field
  | host => .host
  | header name _ => .header name

end Subject

/-- One test, with the value of its literal. -/
inductive Test where
  | addressIs (word : String) (a : Address) (valid : Address.ofString? word = some a)
  | addressIn (word : String) (b : Block) (valid : Block.read word = .ok b)
  | addressListed (list : String)
  | fieldIs (s : Subject) (value : String)
  | fieldMatches (s : Subject) (source : String) (p : Pattern)
      (valid : Pattern.ofSource source = .ok p)
  | hitsAbove (word : String) (n : UInt64) (valid : Parser.State.count? word = some n)

namespace Test

/-- The signs of a test. -/
def signs : Test → List TokenKind
  | addressIs w _ _ => [.word "IP", .equals, .word w]
  | addressIn w _ _ => [.word "IP", .tilde, .word w]
  | addressListed l => [.word "IP", .word "in", .word l]
  | fieldIs s v => [.word s.word, .equals, .string v]
  | fieldMatches s r _ _ => [.word s.word, .tilde, .regex r]
  | hitsAbove w _ _ => [.word "Hits", .greater, .word w]

/-- The leaf that a test stands for. -/
def leaf : Test → Predicate
  | addressIs _ a _ => .addressIs a
  | addressIn _ b _ => .addressIn b
  | addressListed l => .addressListed l
  | fieldIs s v => .fieldIs s.field v
  | fieldMatches s _ p _ => .fieldMatches s.field p
  | hitsAbove _ n _ => .hitsAbove n

end Test

/-! ## 2. Derivations -/

mutual

/-- `negation := "!" negation | "(" disjunction ")" | test` -/
inductive Operand where
  | test (t : Test)
  | bang (o : Operand)
  | group (d : Disjunction)

/-- `conjunction := negation ("&&" negation)*` -/
inductive Conjunction where
  | last (o : Operand)
  | both (o : Operand) (c : Conjunction)

/-- `disjunction := conjunction ("||" conjunction)*` -/
inductive Disjunction where
  | last (c : Conjunction)
  | either (c : Conjunction) (d : Disjunction)

end

/-- `rule := disjunction "=>" word` -/
structure Sentence where
  condition : Disjunction
  action : String

/-! ## 3. What a derivation derives, and what it means -/

mutual

/-- The signs of an operand. -/
def Operand.signs : Operand → List TokenKind
  | .test t => t.signs
  | .bang o => .bang :: o.signs
  | .group d => .openGroup :: d.signs ++ [.closeGroup]

/-- The signs of a conjunction. -/
def Conjunction.signs : Conjunction → List TokenKind
  | .last o => o.signs
  | .both o c => o.signs ++ .both :: c.signs

/-- The signs of a disjunction. -/
def Disjunction.signs : Disjunction → List TokenKind
  | .last c => c.signs
  | .either c d => c.signs ++ .either :: d.signs

end

/-- The signs of a rule, without the end sign. -/
def Sentence.signs (s : Sentence) : List TokenKind :=
  s.condition.signs ++ [.arrow, .word s.action]

mutual

/-- The tree of an operand: parentheses leave nothing behind. -/
def Operand.tree : Operand → Predicate
  | .test t => t.leaf
  | .bang o => .not o.tree
  | .group d => .joinAny d.trees

/-- The trees of the operands of a conjunction, in source order. -/
def Conjunction.trees : Conjunction → List Predicate
  | .last o => [o.tree]
  | .both o c => o.tree :: c.trees

/-- The trees of the conjunctions of a disjunction, in source order. -/
def Disjunction.trees : Disjunction → List Predicate
  | .last c => [.joinAll c.trees]
  | .either c d => .joinAll c.trees :: d.trees

end

theorem Conjunction.trees_ne_nil (c : Conjunction) : c.trees ≠ [] := by
  cases c <;> simp [Conjunction.trees]

/-- The tree of a conjunction.  A single operand stands for itself. -/
def Conjunction.tree (c : Conjunction) : Predicate :=
  .joinAll c.trees

/-- The tree of a disjunction.  A single conjunction stands for itself. -/
def Disjunction.tree (d : Disjunction) : Predicate :=
  .joinAny d.trees

/-- The rule that a derivation stands for. -/
def Sentence.rule (s : Sentence) (id : RuleId) : Rule :=
  ⟨id, s.condition.tree, s.action⟩

mutual

/-- The most operators `!` and groups that enclose one sign of an operand. -/
def Operand.nesting : Operand → Nat
  | .test _ => 0
  | .bang o => o.nesting + 1
  | .group d => d.nesting + 1

/-- The same for a conjunction. -/
def Conjunction.nesting : Conjunction → Nat
  | .last o => o.nesting
  | .both o c => max o.nesting c.nesting

/-- The same for a disjunction. -/
def Disjunction.nesting : Disjunction → Nat
  | .last c => c.nesting
  | .either c d => max c.nesting d.nesting

end

/-! ## 4. Unique reading -/

/-- The word of a subject determines it: no header is written as the host is, as a header carries
with it. -/
theorem Subject.word_injective {s s' : Subject} (h : s.word = s'.word) : s = s' := by
  cases s with
  | host =>
    cases s' with
    | host => rfl
    | header name free => exact absurd (by simp [show name = "Host" from h.symm]) free
  | header name free =>
    cases s' with
    | host => exact absurd (by simp [show name = "Host" from h]) free
    | header name' free' =>
      obtain rfl : name = name' := h
      rfl

/-- The signs of a test determine it, whatever follows.  All tests have three signs, of which the
first two tell the kinds of tests apart. -/
theorem Test.eq_of_signs {t t' : Test} {r r' : List TokenKind}
    (h : t.signs ++ r = t'.signs ++ r') : t = t' ∧ r = r' := by
  cases t with
  | addressIs w a ha =>
    cases t' with
    | addressIs w' a' ha' =>
      obtain ⟨rfl, rfl⟩ : w = w' ∧ r = r' := by simpa [Test.signs] using h
      obtain rfl : a = a' := Option.some.inj (ha.symm.trans ha')
      exact ⟨rfl, rfl⟩
    | _ => simp [Test.signs] at h
  | addressIn w b hb =>
    cases t' with
    | addressIn w' b' hb' =>
      obtain ⟨rfl, rfl⟩ : w = w' ∧ r = r' := by simpa [Test.signs] using h
      obtain rfl : b = b' := Except.ok.inj (hb.symm.trans hb')
      exact ⟨rfl, rfl⟩
    | _ => simp [Test.signs] at h
  | addressListed l =>
    cases t' with
    | addressListed l' =>
      obtain ⟨rfl, rfl⟩ : l = l' ∧ r = r' := by simpa [Test.signs] using h
      exact ⟨rfl, rfl⟩
    | _ => simp [Test.signs] at h
  | fieldIs s v =>
    cases t' with
    | fieldIs s' v' =>
      obtain ⟨hs, rfl, rfl⟩ : s.word = s'.word ∧ v = v' ∧ r = r' := by
        simpa [Test.signs] using h
      obtain rfl : s = s' := Subject.word_injective hs
      exact ⟨rfl, rfl⟩
    | _ => simp [Test.signs] at h
  | fieldMatches s x p hp =>
    cases t' with
    | fieldMatches s' x' p' hp' =>
      obtain ⟨hs, rfl, rfl⟩ : s.word = s'.word ∧ x = x' ∧ r = r' := by
        simpa [Test.signs] using h
      obtain rfl : s = s' := Subject.word_injective hs
      obtain rfl : p = p' := Except.ok.inj (hp.symm.trans hp')
      exact ⟨rfl, rfl⟩
    | _ => simp [Test.signs] at h
  | hitsAbove w n hn =>
    cases t' with
    | hitsAbove w' n' hn' =>
      obtain ⟨rfl, rfl⟩ : w = w' ∧ r = r' := by simpa [Test.signs] using h
      obtain rfl : n = n' := Option.some.inj (hn.symm.trans hn')
      exact ⟨rfl, rfl⟩
    | _ => simp [Test.signs] at h

/-- A test begins with a word, which tells it from a negation and from a group. -/
theorem Test.signs_eq_word (t : Test) : ∃ w rest, t.signs = .word w :: rest := by
  cases t <;> exact ⟨_, _, rfl⟩

mutual

/-- The signs of an operand determine it, whatever follows.  So what follows is determined too,
which is what the chains below need. -/
theorem Operand.eq_of_signs : ∀ (o o' : Operand) {r r' : List TokenKind},
    o.signs ++ r = o'.signs ++ r' → o = o' ∧ r = r'
  | .test t, .test t', r, r', h => by
    obtain ⟨rfl, hr⟩ := Test.eq_of_signs h
    exact ⟨rfl, hr⟩
  | .bang o, .bang o', r, r', h => by
    obtain ⟨rfl, hr⟩ := Operand.eq_of_signs o o' (List.cons.inj h).2
    exact ⟨rfl, hr⟩
  | .group d, .group d', r, r', h => by
    have h : d.signs ++ (.closeGroup :: r) = d'.signs ++ (.closeGroup :: r') := by
      simpa [Operand.signs] using h
    obtain ⟨rfl, hr⟩ := Disjunction.eq_of_signs d d' (by simp) (by simp) (by simp) (by simp) h
    exact ⟨rfl, (List.cons.inj hr).2⟩
  | .test t, .bang _, _, _, h | .test t, .group _, _, _, h => by
    obtain ⟨w, rest, ht⟩ := t.signs_eq_word
    simp [Operand.signs, ht] at h
  | .bang _, .test t, _, _, h | .group _, .test t, _, _, h => by
    obtain ⟨w, rest, ht⟩ := t.signs_eq_word
    simp [Operand.signs, ht] at h
  | .bang _, .group _, _, _, h | .group _, .bang _, _, _, h => by
    simp [Operand.signs] at h

/-- The signs of a conjunction determine it, if what follows does not go on with it.  Without the
condition a part of the chain would do as well. -/
theorem Conjunction.eq_of_signs : ∀ (c c' : Conjunction) {r r' : List TokenKind},
    r.head? ≠ some .both → r'.head? ≠ some .both →
    c.signs ++ r = c'.signs ++ r' → c = c' ∧ r = r'
  | .last o, .last o', r, r', _, _, h => by
    obtain ⟨rfl, hr⟩ := Operand.eq_of_signs o o' h
    exact ⟨rfl, hr⟩
  | .last o, .both o' c', r, r', hb, _, h => by
    rw [Conjunction.signs, Conjunction.signs, List.append_assoc] at h
    obtain ⟨-, hr⟩ := Operand.eq_of_signs o o' h
    exact absurd (by rw [hr]; rfl) hb
  | .both o c, .last o', r, r', _, hb, h => by
    rw [Conjunction.signs, Conjunction.signs, List.append_assoc] at h
    obtain ⟨-, hr⟩ := Operand.eq_of_signs o o' h
    exact absurd (by rw [← hr]; rfl) hb
  | .both o c, .both o' c', r, r', hb, hb', h => by
    rw [Conjunction.signs, Conjunction.signs, List.append_assoc, List.append_assoc] at h
    obtain ⟨rfl, hr⟩ := Operand.eq_of_signs o o' h
    obtain ⟨rfl, hrest⟩ := Conjunction.eq_of_signs c c' hb hb' (List.cons.inj hr).2
    exact ⟨rfl, hrest⟩

/-- The signs of a disjunction determine it, if what follows goes on with neither it nor its
last conjunction. -/
theorem Disjunction.eq_of_signs : ∀ (d d' : Disjunction) {r r' : List TokenKind},
    r.head? ≠ some .both → r'.head? ≠ some .both →
    r.head? ≠ some .either → r'.head? ≠ some .either →
    d.signs ++ r = d'.signs ++ r' → d = d' ∧ r = r'
  | .last c, .last c', r, r', hb, hb', _, _, h => by
    obtain ⟨rfl, hr⟩ := Conjunction.eq_of_signs c c' hb hb' h
    exact ⟨rfl, hr⟩
  | .last c, .either c' d', r, r', hb, _, he, _, h => by
    rw [Disjunction.signs, Disjunction.signs, List.append_assoc] at h
    obtain ⟨-, hr⟩ := Conjunction.eq_of_signs c c' hb (by simp) h
    exact absurd (by rw [hr]; rfl) he
  | .either c d, .last c', r, r', _, hb', _, he', h => by
    rw [Disjunction.signs, Disjunction.signs, List.append_assoc] at h
    obtain ⟨-, hr⟩ := Conjunction.eq_of_signs c c' (by simp) hb' h
    exact absurd (by rw [← hr]; rfl) he'
  | .either c d, .either c' d', r, r', hb, hb', he, he', h => by
    rw [Disjunction.signs, Disjunction.signs, List.append_assoc, List.append_assoc] at h
    obtain ⟨rfl, hr⟩ := Conjunction.eq_of_signs c c' (by simp) (by simp) h
    obtain ⟨rfl, hrest⟩ := Disjunction.eq_of_signs d d' hb hb' he he' (List.cons.inj hr).2
    exact ⟨rfl, hrest⟩

end

/-- **Signs have at most one derivation**, so a rule has at most one meaning. -/
theorem Sentence.signs_injective {s s' : Sentence} (h : s.signs = s'.signs) : s = s' := by
  obtain ⟨d, a⟩ := s
  obtain ⟨d', a'⟩ := s'
  obtain ⟨rfl, hr⟩ := Disjunction.eq_of_signs d d' (by simp) (by simp) (by simp) (by simp) h
  obtain rfl : a = a' := by simpa using hr
  rfl

end Turnstile.Grammar
