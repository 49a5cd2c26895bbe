/-
# Printing and parsing rules

`Printing.lean` shows that a printed rule reads as a derivation.  Here is the other half,
that **whatever was parsed can be printed**: its words and sources come from the scanner,
which makes no others than those that have a spelling (`Operand.printable_tree`); its nodes
have two children at least, since one child stands for itself (`Operand.branching_tree`); and
it is printed with no more signs `!` and `(` around a sign than the text had there
(`Operand.nesting_tree`).

So parsing undoes printing up to nodes with a single child, and undoes it exactly for rules
that were parsed (`parse_text`).
-/
import Turnstile.Proofs.Rule.Printing
import Turnstile.Proofs.Rule.Tiling

namespace Turnstile

open Turnstile.Text Turnstile.Grammar

/-! ## 1. Trees of derivations -/

namespace Predicate

theorem printable_joinAll {ps : List Predicate} (hne : ps ≠ []) (h : PrintableList ps) :
    (joinAll ps).Printable := by
  match ps, hne with
  | [p], _ => exact h.1
  | p :: q :: ps, hne => exact ⟨hne, h⟩

theorem printable_joinAny {ps : List Predicate} (hne : ps ≠ []) (h : PrintableList ps) :
    (joinAny ps).Printable := by
  match ps, hne with
  | [p], _ => exact h.1
  | p :: q :: ps, hne => exact ⟨hne, h⟩

theorem branching_joinAll {ps : List Predicate} (hne : ps ≠ []) (h : BranchingList ps) :
    (joinAll ps).Branching := by
  match ps, hne with
  | [p], _ => exact h.1
  | p :: q :: ps, _ => exact ⟨by simp, h⟩

theorem branching_joinAny {ps : List Predicate} (hne : ps ≠ []) (h : BranchingList ps) :
    (joinAny ps).Branching := by
  match ps, hne with
  | [p], _ => exact h.1
  | p :: q :: ps, _ => exact ⟨by simp, h⟩

mutual

/-- A tree without nodes of a single child is collapsed already, so printing and parsing give back
the tree itself. -/
theorem collapsed_of_branching : ∀ {p : Predicate}, p.Branching → p.collapsed = p
  | .not p, h => by rw [collapsed, collapsed_of_branching (p := p) h]
  | .all ps, h => by
    rw [collapsed, collapsedList_of_branching h.2]
    match ps, h.1 with
    | p :: q :: ps, _ => rfl
  | .any ps, h => by
    rw [collapsed, collapsedList_of_branching h.2]
    match ps, h.1 with
    | p :: q :: ps, _ => rfl
  | .addressIs _, _ | .addressIn _, _ | .addressListed _, _ | .fieldIs _ _, _
  | .fieldMatches _ _, _ | .hitsAbove _, _ => rfl

theorem collapsedList_of_branching : ∀ {ps : List Predicate}, BranchingList ps →
    collapsedList ps = ps
  | [], _ => rfl
  | p :: ps, h => by
    rw [collapsedList, collapsed_of_branching h.1, collapsedList_of_branching h.2]

end

end Predicate

namespace Grammar

theorem Disjunction.trees_ne_nil (d : Disjunction) : d.trees ≠ [] := by
  cases d <;> simp [Disjunction.trees]

/-! ## 2. Parsed trees can be printed -/

theorem Subject.printable_field {s : Subject} (h : IsWord s.word) : s.field.Printable := by
  cases s with
  | host => trivial
  | header name free => exact ⟨h, free⟩

theorem Test.printable_leaf {t : Test} (h : ∀ k ∈ t.signs, k.Spellable) : t.leaf.Printable := by
  cases t with
  | addressIs w a ha => trivial
  | addressIn w b hb => trivial
  | addressListed list => exact h (.word list) (by simp [Test.signs])
  | fieldIs s v => exact Subject.printable_field (h (.word s.word) (by simp [Test.signs]))
  | fieldMatches s r p hp =>
    have hregex := h (.regex r) (by simp [Test.signs])
    refine ⟨Subject.printable_field (h (.word s.word) (by simp [Test.signs])), ?_⟩
    rw [Pattern.source_ofSource hp]
    exact hregex.1
  | hitsAbove w n hn => trivial

mutual

/-- If the signs of a derivation have spellings, its tree can be printed: all that printing asks for
is said by the signs. -/
theorem Operand.printable_tree : ∀ {o : Operand}, (∀ k ∈ o.signs, k.Spellable) →
    o.tree.Printable
  | .test t, h => Test.printable_leaf h
  | .bang o, h => Operand.printable_tree (o := o) fun k hk => h k (List.mem_cons_of_mem _ hk)
  | .group d, h =>
    Predicate.printable_joinAny d.trees_ne_nil (Disjunction.printable_trees fun k hk =>
      h k (by simp [Operand.signs, hk]))

theorem Conjunction.printable_trees : ∀ {c : Conjunction}, (∀ k ∈ c.signs, k.Spellable) →
    Predicate.PrintableList c.trees
  | .last o, h => ⟨Operand.printable_tree (o := o) h, trivial⟩
  | .both o c, h =>
    ⟨Operand.printable_tree fun k hk => h k (by simp [Conjunction.signs, hk]),
      Conjunction.printable_trees fun k hk => h k (by simp [Conjunction.signs, hk])⟩

theorem Disjunction.printable_trees : ∀ {d : Disjunction}, (∀ k ∈ d.signs, k.Spellable) →
    Predicate.PrintableList d.trees
  | .last c, h =>
    ⟨Predicate.printable_joinAll c.trees_ne_nil (Conjunction.printable_trees h), trivial⟩
  | .either c d, h =>
    ⟨Predicate.printable_joinAll c.trees_ne_nil (Conjunction.printable_trees fun k hk =>
        h k (by simp [Disjunction.signs, hk])),
      Disjunction.printable_trees fun k hk => h k (by simp [Disjunction.signs, hk])⟩

end

mutual

/-- Nodes of a tree that was parsed have two children at least, since a chain of one operand makes
no node. -/
theorem Operand.branching_tree : ∀ o : Operand, o.tree.Branching
  | .test t => by cases t <;> trivial
  | .bang o => Operand.branching_tree o
  | .group d => Predicate.branching_joinAny d.trees_ne_nil (Disjunction.branching_trees d)

theorem Conjunction.branching_trees : ∀ c : Conjunction, Predicate.BranchingList c.trees
  | .last o => ⟨Operand.branching_tree o, trivial⟩
  | .both o c => ⟨Operand.branching_tree o, Conjunction.branching_trees c⟩

theorem Disjunction.branching_trees : ∀ d : Disjunction, Predicate.BranchingList d.trees
  | .last c =>
    ⟨Predicate.branching_joinAll c.trees_ne_nil (Conjunction.branching_trees c), trivial⟩
  | .either c d =>
    ⟨Predicate.branching_joinAll c.trees_ne_nil (Conjunction.branching_trees c),
      Disjunction.branching_trees d⟩

end

/-! ## 3. Printing adds no parentheses -/

theorem le_wrapped (c : Prop) [Decidable c] (n : Nat) : n ≤ if c then n + 1 else n := by
  by_cases h : c
  · rw [if_pos h]
    omega
  · rw [if_neg h]

theorem wrapped_le (c : Prop) [Decidable c] (n : Nat) : (if c then n + 1 else n) ≤ n + 1 := by
  by_cases h : c
  · rw [if_pos h]
  · rw [if_neg h]
    omega

/-- What a chain of operands costs in print: a single operand stands for itself, and more of them
are put in parentheses once. -/
theorem nesting_joinAll {ps : List Predicate} (hne : ps ≠ []) :
    (if (Predicate.joinAll ps).strength ≤ 0 then (Predicate.joinAll ps).nesting + 1
      else (Predicate.joinAll ps).nesting) ≤ Predicate.nestingList 1 ps := by
  match ps, hne with
  | [p], _ =>
    rw [Predicate.joinAll, Predicate.nestingList]
    refine Nat.le_trans ?_ (Nat.le_max_left _ _)
    by_cases h : p.strength ≤ 0
    · rw [if_pos h, if_pos (by omega)]
    · rw [if_neg h]
      exact le_wrapped _ _
  | p :: q :: ps, _ => exact Nat.le_refl _

theorem nesting_joinAny {ps : List Predicate} (hne : ps ≠ []) :
    (Predicate.joinAny ps).nesting ≤ Predicate.nestingList 0 ps := by
  match ps, hne with
  | [p], _ => exact Nat.le_trans (le_wrapped _ _) (Nat.le_max_left _ _)
  | p :: q :: ps, _ => exact Nat.le_refl _

mutual

/-- **No derivation nests less than its tree does in print**, with the parentheses that the
tree has beside the signs around it. -/
theorem Operand.nesting_tree : ∀ o : Operand,
    (if o.tree.strength ≤ 1 then o.tree.nesting + 1 else o.tree.nesting) ≤ o.nesting
  | .test t => by cases t <;> exact Nat.le_refl _
  | .bang o => by
    have ih := Operand.nesting_tree o
    exact Nat.succ_le_succ (by simpa only [Nat.lt_succ_iff] using ih)
  | .group d => by
    have ih := Disjunction.nesting_trees d
    have hjoin := nesting_joinAny d.trees_ne_nil
    refine Nat.le_trans (wrapped_le _ _) (Nat.succ_le_succ ?_)
    exact Nat.le_trans hjoin ih

theorem Conjunction.nesting_trees : ∀ c : Conjunction,
    Predicate.nestingList 1 c.trees ≤ c.nesting
  | .last o => by
    have ih := Operand.nesting_tree o
    simpa [Conjunction.trees, Conjunction.nesting, Predicate.nestingList] using ih
  | .both o c => by
    have ih := Operand.nesting_tree o
    have ihs := Conjunction.nesting_trees c
    rw [Conjunction.trees, Conjunction.nesting, Predicate.nestingList]
    omega

theorem Disjunction.nesting_trees : ∀ d : Disjunction,
    Predicate.nestingList 0 d.trees ≤ d.nesting
  | .last c => by
    have ih := Conjunction.nesting_trees c
    have hjoin := nesting_joinAll c.trees_ne_nil
    rw [Disjunction.trees, Disjunction.nesting, Predicate.nestingList, Predicate.nestingList]
    omega
  | .either c d => by
    have ih := Conjunction.nesting_trees c
    have hjoin := nesting_joinAll c.trees_ne_nil
    have ihs := Disjunction.nesting_trees d
    rw [Disjunction.trees, Disjunction.nesting, Predicate.nestingList]
    omega

end

/-! ## 4. Rules -/

/-- Two derivations of a text are one, since a text has one list of signs and signs have one
derivation. -/
theorem Reads.unique {text : String} {d d' : Sentence} (h : Reads text d) (h' : Reads text d') :
    d = d' := by
  obtain ⟨tokens, hscan, hkinds⟩ := h
  obtain ⟨tokens', hscan', hkinds'⟩ := h'
  obtain rfl : tokens = tokens' := Except.ok.inj (hscan.symm.trans hscan')
  exact Sentence.signs_injective (List.append_cancel_right (hkinds.symm.trans hkinds'))

/-- The signs of a text have spellings, though not always those of the text, in which a literal may
be escaped more than it needs. -/
theorem Reads.spellable {text : String} {d : Sentence} (h : Reads text d) :
    ∀ k ∈ d.signs, k.Spellable := by
  obtain ⟨tokens, hscan, hkinds⟩ := h
  obtain ⟨ks, hks, hspell⟩ := Scanner.scan_spellable hscan
  rwa [List.append_cancel_right (hkinds.symm.trans hks)]

end Grammar

/-- **A rule that was parsed can be printed**, without more parentheses than its text had,
and none of its nodes has a single child. -/
theorem printable_of_parse {id : RuleId} {text : String} {r : Rule}
    (h : Parser.parse id text = .ok r) :
    r.id = id ∧ r.Printable ∧ r.predicate.nesting ≤ Parser.maxDepth ∧ r.predicate.Branching := by
  obtain ⟨d, hreads, hnest, rfl⟩ := reads_of_parse h
  have hspell := hreads.spellable
  have hne := d.condition.trees_ne_nil
  refine ⟨rfl, ⟨?_, ?_⟩, ?_, ?_⟩
  · exact Predicate.printable_joinAny hne (Disjunction.printable_trees fun k hk =>
      hspell k (by simp [Sentence.signs, hk]))
  · exact hspell (.word d.action) (by simp [Sentence.signs])
  · have hjoin := nesting_joinAny hne
    have htrees := d.condition.nesting_trees
    exact Nat.le_trans (Nat.le_trans hjoin htrees) hnest
  · exact Predicate.branching_joinAny hne d.condition.branching_trees

/-- **Parsing undoes printing.**  The text of a rule whose names are words, whose nodes have
children and whose sources hold no pair of backslash and slash parses as the rule with its
nodes of a single child replaced by that child, unless the text nests too deep; what nests is
the text, as any derivation of it shows.  Rules that were parsed meet all these conditions,
with two children at every node, so their texts parse as the rules themselves. -/
theorem parse_text :
    (∀ r : Rule, r.Printable → r.predicate.nesting ≤ Parser.maxDepth →
      Parser.parse r.id r.text = .ok { r with predicate := r.predicate.collapsed }) ∧
    (∀ r : Rule, r.Printable → ∀ d, Reads r.text d →
      d.condition.nesting = r.predicate.nesting) ∧
    (∀ (id : RuleId) (text : String) (r : Rule), Parser.parse id text = .ok r →
      r.Printable ∧ r.predicate.nesting ≤ Parser.maxDepth ∧ r.predicate.Branching) ∧
    (∀ (id : RuleId) (text : String) (r : Rule), Parser.parse id text = .ok r →
      Parser.parse id r.text = .ok r) := by
  have hprint : ∀ r : Rule, r.Printable → r.predicate.nesting ≤ Parser.maxDepth →
      Parser.parse r.id r.text = .ok { r with predicate := r.predicate.collapsed } := by
    intro r hr hn
    obtain ⟨d, hreads, htree, hnest, haction⟩ := reads_text hr
    rw [hreads.parse r.id (by omega), Sentence.rule, htree, haction]
  refine ⟨hprint, ?_, fun id text r h => (printable_of_parse h).2, ?_⟩
  · intro r hr d hd
    obtain ⟨d', hreads, -, hnest, -⟩ := reads_text hr
    rw [hd.unique hreads, hnest]
  · intro id text r h
    obtain ⟨rfl, hr, hn, hb⟩ := printable_of_parse h
    rw [hprint r hr hn, Predicate.collapsed_of_branching hb]

/-- A conjunction with a disjunction of one in it. -/
def lopsided : Rule :=
  ⟨7, .all [.any [.not (.fieldIs .host "a\"b")], .addressListed "office"], "reject"⟩

/-- The disjunction of one is printed in parentheses, which are read and leave no node.  What was
read prints without them, and is read as it is. -/
theorem parse_text_lopsided :
    lopsided.Printable ∧ lopsided.predicate.nesting ≤ Parser.maxDepth ∧
    lopsided.text = "(!Host = \"a\\\"b\") && IP in office => reject" ∧
    ∃ r : Rule, Parser.parse 7 lopsided.text = .ok r ∧
      r.predicate = .all [.not (.fieldIs .host "a\"b"), .addressListed "office"] ∧
      r.text = "!Host = \"a\\\"b\" && IP in office => reject" ∧
      r.Printable ∧ r.predicate.Branching ∧ Parser.parse 7 r.text = .ok r := by
  obtain ⟨hprinted, -, hparsed, hagain⟩ := parse_text
  have hword : IsWord "office" ∧ IsWord "reject" := by decide
  have hprintable : lopsided.Printable :=
    ⟨⟨List.cons_ne_nil _ _, ⟨List.cons_ne_nil _ _, trivial, trivial⟩, hword.1, trivial⟩, hword.2⟩
  have hnesting : lopsided.predicate.nesting ≤ Parser.maxDepth := by decide
  have hread := hprinted lopsided hprintable hnesting
  obtain ⟨hprintable', -, hbranching⟩ := hparsed 7 lopsided.text _ hread
  exact ⟨hprintable, hnesting, rfl, _, hread, rfl, rfl, hprintable', hbranching,
    hagain 7 lopsided.text _ hread⟩

end Turnstile
