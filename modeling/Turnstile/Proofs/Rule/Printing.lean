/-
# Printed rules parse

A rule is printed as signs with blanks between some of them, and the text is parsed back
into the rule.  Three facts meet here, each proved where it belongs: values are written so
that they can be read (`Address/Text.lean`), signs are scanned as they are spelled
(`Spelling.lean`), and the parser reads exactly the grammar (`Recognition.lean`).

**The printed tree has a derivation** (`exists_operand`, `exists_conjunction`,
`exists_disjunction`).  By induction on the tree: the printer puts a child in parentheses in
the same cases in which the grammar needs a group there.  The derivation stands for the tree
in which a node with a single child is that child (`collapsed`), and it nests as deep as the
tree does when it is printed (`nesting`).

**The layout is scanned into its signs** (`steps_layout`).  The printer leaves out a blank
only behind `!` and `(` and before `)`, where signs never run together.

Together: the text of a rule reads as a derivation of its collapsed tree (`reads_text`).
-/
import Mathlib.Data.List.Chain
import Turnstile.Proofs.Address.Text
import Turnstile.Proofs.Pattern.Anchors
import Turnstile.Proofs.Rule.Recognition
import Turnstile.Proofs.Rule.Spelling
import Turnstile.Rule.Printer

namespace Turnstile

open Turnstile.Text Turnstile.Grammar

/-! ## 1. Values as words -/

theorem isWordChar_of_isAddressChar {c : Char} (h : Address.isAddressChar c = true) :
    Scanner.isWordChar c = true := by
  have hop : c ∉ ['(', ')', '!', '&', '|', '=', '~', '>', '"'] := by
    intro hc
    simp only [List.mem_cons, List.not_mem_nil, or_false] at hc
    rcases hc with rfl | rfl | rfl | rfl | rfl | rfl | rfl | rfl | rfl <;>
      exact absurd h (by decide)
  simp only [Scanner.isWordChar, Address.isBlank_eq_false h, Bool.not_false, Bool.true_and,
    Bool.not_eq_true']
  simpa using hop

/-- Text in the characters of addresses, with slashes behind the first, is a word, and so are
addresses and blocks as they are printed. -/
theorem isWord_of_chars {c : Char} {cs : List Char} (hc : Address.isAddressChar c = true)
    (hcs : ∀ d ∈ cs, Address.isAddressChar d = true ∨ d = '/') :
    IsWord (String.ofList (c :: cs)) := by
  refine ⟨by simp, ?_, ?_⟩
  · have hne : c ≠ '/' := by
      rintro rfl
      exact absurd hc (by decide)
    simpa using hne
  · intro d hd
    rw [String.toList_ofList] at hd
    rcases List.mem_cons.mp hd with rfl | hd
    · exact isWordChar_of_isAddressChar hc
    · rcases hcs d hd with h | rfl
      · exact isWordChar_of_isAddressChar h
      · decide

theorem Address.isWord_text (a : Address) : IsWord a.text := by
  obtain ⟨c, cs, hcs⟩ := List.exists_cons_of_ne_nil a.chars_ne_nil
  have hmem : ∀ d ∈ c :: cs, Address.isAddressChar d = true := fun d hd =>
    Address.isAddressChar_of_mem_chars (a := a) (by rw [hcs]; exact hd)
  rw [Address.text, hcs]
  exact isWord_of_chars (hmem c (by simp)) fun d hd => Or.inl (hmem d (by simp [hd]))

theorem Block.isWord_text (b : Block) : IsWord b.text := by
  obtain ⟨c, cs, hcs⟩ := List.exists_cons_of_ne_nil b.base.chars_ne_nil
  have hfirst : Address.isAddressChar c = true :=
    Address.isAddressChar_of_mem_chars (a := b.base) (by rw [hcs]; simp)
  have hchars : b.chars = c :: (cs ++ '/' :: Nat.toDigits 10 b.length) := by
    rw [Block.chars, hcs]
    rfl
  rw [Block.text, hchars]
  refine isWord_of_chars hfirst ?_
  intro d hd
  exact Block.isAddressChar_or_slash_of_mem_chars (b := b) (by rw [hchars]; simp [hd])

theorem isWord_toString (n : Nat) : IsWord (toString n) := by
  obtain ⟨c, cs, hcs⟩ := List.exists_cons_of_ne_nil (Nat.toDigits_ne_nil (n := n) (b := 10))
  have hmem : ∀ d ∈ c :: cs, Address.isAddressChar d = true := fun d hd =>
    Address.isAddressChar_of_mem_toDigits (b := 10) (n := n) (by decide) (by decide)
      (by rw [hcs]; exact hd)
  have htext : toString n = String.ofList (c :: cs) := by
    rw [← hcs]
    rfl
  rw [htext]
  exact isWord_of_chars (hmem c (by simp)) fun d hd => Or.inl (hmem d (by simp [hd]))

/-- **The text of a count reads back**: it is in digits without a sign, and no greater than the
machine number it was printed from. -/
theorem count?_toString (n : UInt64) :
    Parser.State.count? (toString n.toNat) = some n := by
  have htext : (toString n.toNat).toList = Nat.toDigits 10 n.toNat := by
    rw [show toString n.toNat = String.ofList (Nat.toDigits 10 n.toNat) from rfl,
      String.toList_ofList]
  have hplus : ∀ rest, Nat.toDigits 10 n.toNat ≠ '+' :: rest := by
    intro rest e
    have hmem : '+' ∈ Nat.toDigits 10 n.toNat := by rw [e]; simp
    exact Address.not_mem_toDigits (by decide) (by decide) (by decide) hmem
  have hlt : n.toNat < UInt64.size := n.toNat_lt
  -- `hplus` tells `simp` that no sign is dropped
  simp only [Parser.State.count?, htext, decimal?_toDigits, if_pos hlt, UInt64.ofNat_toNat]

/-- **The source of a pattern compiles to it**, as the pattern carries what was compiled of its
source. -/
theorem Pattern.ofSource_source (p : Pattern) : Pattern.ofSource p.source = .ok p := by
  unfold Pattern.ofSource
  split
  · next e halone =>
    have hok := p.alone
    rw [halone] at hok
    cases hok
  · split
    · next e hcompiled =>
      rw [p.compiled] at hcompiled
      cases hcompiled
    · exact congrArg Except.ok ((Pattern.eq_iff _ _).mpr rfl)

/-! ## 2. Trees that can be printed -/

/-- A header is written as a word, and as none of those that begin other tests. -/
def Field.Printable : Field → Prop
  | .host => True
  | .header name => IsWord name ∧ name ∉ ["IP", "Host", "Hits"]

namespace Predicate

mutual

/-- The names in a tree are words, its sources hold no pair of backslash and slash, and its
inner nodes have children. -/
def Printable : Predicate → Prop
  | addressListed list => IsWord list
  | fieldIs f _ => f.Printable
  | fieldMatches f p => f.Printable ∧ slashPair false p.source.toList = false
  | not p => Printable p
  | all ps => ps ≠ [] ∧ PrintableList ps
  | any ps => ps ≠ [] ∧ PrintableList ps
  | _ => True

/-- The same for several trees. -/
def PrintableList : List Predicate → Prop
  | [] => True
  | p :: ps => Printable p ∧ PrintableList ps

end

mutual

/-- Every `all` and `any` has at least two children. -/
def Branching : Predicate → Prop
  | not p => Branching p
  | all ps => 2 ≤ ps.length ∧ BranchingList ps
  | any ps => 2 ≤ ps.length ∧ BranchingList ps
  | _ => True

/-- The same for several trees. -/
def BranchingList : List Predicate → Prop
  | [] => True
  | p :: ps => Branching p ∧ BranchingList ps

end

mutual

/-- The tree in which every `all` and `any` with one child is that child. -/
def collapsed : Predicate → Predicate
  | not p => not (collapsed p)
  | all ps => joinAll (collapsedList ps)
  | any ps => joinAny (collapsedList ps)
  | p => p

/-- The same for several trees. -/
def collapsedList : List Predicate → List Predicate
  | [] => []
  | p :: ps => collapsed p :: collapsedList ps

end

mutual

/-- The most signs `!` and `(` that are open at a time in the printed tree. -/
def nesting : Predicate → Nat
  | not p => (if p.strength < 2 then nesting p + 1 else nesting p) + 1
  | all ps => nestingList 1 ps
  | any ps => nestingList 0 ps
  | _ => 0

/-- The same for children of a node of some strength. -/
def nestingList (strength : Nat) : List Predicate → Nat
  | [] => 0
  | p :: ps =>
    max (if p.strength ≤ strength then nesting p + 1 else nesting p) (nestingList strength ps)

end

end Predicate

/-- A rule that can be printed: its tree can, and its action is a word. -/
def Rule.Printable (r : Rule) : Prop :=
  r.predicate.Printable ∧ IsWord r.action

/-! ## 3. The derivation of a printed tree -/

/-- The sign of a piece that is one. -/
def Piece.sign? : Piece → Option TokenKind
  | token k => some k
  | gap => none

/-- The signs of a layout. -/
def signsOf (pieces : List Piece) : List TokenKind :=
  pieces.filterMap Piece.sign?

@[simp] theorem signsOf_append (ps qs : List Piece) :
    signsOf (ps ++ qs) = signsOf ps ++ signsOf qs :=
  List.filterMap_append

@[simp] theorem signsOf_token (k : TokenKind) (ps : List Piece) :
    signsOf (.token k :: ps) = k :: signsOf ps := rfl

@[simp] theorem signsOf_gap (ps : List Piece) : signsOf (.gap :: ps) = signsOf ps := rfl

theorem signsOf_group (ps : List Piece) :
    signsOf (Predicate.group ps) = .openGroup :: signsOf ps ++ [.closeGroup] := by
  simp [Predicate.group]
  rfl

/-- The subject of a test of a field that can be printed.  The name of a header has to be a word,
and none of those that lead to other tests. -/
theorem exists_subject {f : Field} (h : f.Printable) :
    ∃ s : Subject, s.word = Predicate.fieldWord f ∧ s.field = f := by
  cases f with
  | host => exact ⟨.host, rfl, rfl⟩
  | header name => exact ⟨.header name h.2, rfl, rfl⟩

/-- A leaf is printed as a test.  The strength of a leaf tells it from chains, and the last
hypothesis from negations. -/
theorem exists_test {p : Predicate} (h : p.Printable) (hs : p.strength = 2)
    (hn : ∀ q, p ≠ .not q) :
    ∃ t : Test, t.signs = signsOf p.layout ∧ t.leaf = p := by
  cases p with
  | addressIs a => exact ⟨.addressIs a.text a a.ofString?_text, rfl, rfl⟩
  | addressIn b => exact ⟨.addressIn b.text b b.read_text, rfl, rfl⟩
  | addressListed list => exact ⟨.addressListed list, rfl, rfl⟩
  | fieldIs f v =>
    obtain ⟨s, hword, hfield⟩ := exists_subject h
    exact ⟨.fieldIs s v, by rw [Test.signs, hword]; rfl, by rw [Test.leaf, hfield]⟩
  | fieldMatches f p =>
    obtain ⟨s, hword, hfield⟩ := exists_subject h.1
    exact ⟨.fieldMatches s p.source p p.ofSource_source, by rw [Test.signs, hword]; rfl,
      by rw [Test.leaf, hfield]⟩
  | hitsAbove n => exact ⟨.hitsAbove (toString n.toNat) n (count?_toString n), rfl, rfl⟩
  | not q => exact absurd rfl (hn q)
  | all ps => cases hs
  | any ps => cases hs

mutual

/-- **A tree that stands behind `!` or beside `&&`**: parentheses if it is a chain.  A chain of one
child stands for itself, but is put in parentheses all the same. -/
theorem exists_operand : ∀ p : Predicate, p.Printable →
    ∃ o : Operand,
      o.signs = signsOf (if p.strength < 2 then Predicate.group p.layout else p.layout) ∧
      o.tree = p.collapsed ∧
      o.nesting = if p.strength < 2 then p.nesting + 1 else p.nesting
  | .not p, h => by
    obtain ⟨o, hsigns, htree, hnest⟩ := exists_operand p h
    refine ⟨.bang o, ?_, ?_, ?_⟩
    · rw [Operand.signs, hsigns]
      simp [Predicate.strength, Predicate.layout]
    · rw [Operand.tree, htree, Predicate.collapsed]
    · rw [Operand.nesting, hnest]
      rfl
  | .all ps, h => by
    obtain ⟨c, hsigns, htrees, hnest⟩ := exists_conjunction ps h.1 h.2
    refine ⟨.group (.last c), ?_, ?_, ?_⟩
    · rw [Operand.signs, Disjunction.signs, hsigns]
      exact (signsOf_group _).symm
    · rw [Operand.tree, Disjunction.trees, htrees]
      rfl
    · rw [Operand.nesting, Disjunction.nesting, hnest]
      rfl
  | .any ps, h => by
    obtain ⟨d, hsigns, htrees, hnest⟩ := exists_disjunction ps h.1 h.2
    refine ⟨.group d, ?_, ?_, ?_⟩
    · rw [Operand.signs, hsigns]
      exact (signsOf_group _).symm
    · rw [Operand.tree, htrees]
      rfl
    · rw [Operand.nesting, hnest]
      rfl
  | .addressIs _, h | .addressIn _, h | .addressListed _, h | .fieldIs _ _, h
  | .fieldMatches _ _, h | .hitsAbove _, h => by
    obtain ⟨t, hsigns, hleaf⟩ := exists_test h rfl (by simp)
    exact ⟨.test t, hsigns, hleaf, rfl⟩
  termination_by p => (sizeOf p, 0)

/-- The children of `all`, with `&&` between them, each of which is an operand of its own. -/
theorem exists_conjunction : ∀ ps : List Predicate, ps ≠ [] → Predicate.PrintableList ps →
    ∃ c : Conjunction, c.signs = signsOf (Predicate.layoutList 1 .both ps) ∧
      c.trees = Predicate.collapsedList ps ∧ c.nesting = Predicate.nestingList 1 ps
  | [], h, _ => absurd rfl h
  | [p], _, h => by
    obtain ⟨o, hsigns, htree, hnest⟩ := exists_operand p h.1
    simp only [Nat.lt_succ_iff] at hsigns hnest
    refine ⟨.last o, hsigns, ?_, ?_⟩
    · rw [Conjunction.trees, htree]
      rfl
    · rw [Conjunction.nesting, hnest]
      simp [Predicate.nestingList]
  | p :: q :: ps, _, h => by
    obtain ⟨o, hsigns, htree, hnest⟩ := exists_operand p h.1
    obtain ⟨c, hsigns', htrees, hnest'⟩ := exists_conjunction (q :: ps) (by simp) h.2
    simp only [Nat.lt_succ_iff] at hsigns hnest
    refine ⟨.both o c, ?_, ?_, ?_⟩
    · rw [Conjunction.signs, hsigns, hsigns', Predicate.layoutList]
      simp
    · rw [Conjunction.trees, htree, htrees]
      rfl
    · rw [Conjunction.nesting, hnest, hnest']
      rfl
  termination_by ps => (sizeOf ps, 0)

/-- **A tree that stands beside `||`**: parentheses only if it is a disjunction itself, as `&&`
binds tighter. -/
theorem exists_conjunct : ∀ p : Predicate, p.Printable →
    ∃ c : Conjunction,
      c.signs = signsOf (if p.strength ≤ 0 then Predicate.group p.layout else p.layout) ∧
      c.tree = p.collapsed ∧
      c.nesting = if p.strength ≤ 0 then p.nesting + 1 else p.nesting
  | .all ps, h => by
    obtain ⟨c, hsigns, htrees, hnest⟩ := exists_conjunction ps h.1 h.2
    refine ⟨c, hsigns, ?_, hnest⟩
    rw [Conjunction.tree, htrees]
    rfl
  | .any _, h | .not _, h | .addressIs _, h | .addressIn _, h | .addressListed _, h
  | .fieldIs _ _, h | .fieldMatches _ _, h | .hitsAbove _, h => by
    obtain ⟨o, hsigns, htree, hnest⟩ := exists_operand _ h
    exact ⟨.last o, hsigns, htree, hnest⟩
  termination_by p => (sizeOf p, 1)

/-- The children of `any`, with `||` between them.  The four are proved together, along the tree. -/
theorem exists_disjunction : ∀ ps : List Predicate, ps ≠ [] → Predicate.PrintableList ps →
    ∃ d : Disjunction, d.signs = signsOf (Predicate.layoutList 0 .either ps) ∧
      d.trees = Predicate.collapsedList ps ∧ d.nesting = Predicate.nestingList 0 ps
  | [], h, _ => absurd rfl h
  | [p], _, h => by
    obtain ⟨c, hsigns, htree, hnest⟩ := exists_conjunct p h.1
    refine ⟨.last c, hsigns, ?_, ?_⟩
    · rw [Disjunction.trees, ← Conjunction.tree, htree]
      rfl
    · rw [Disjunction.nesting, hnest]
      simp [Predicate.nestingList]
  | p :: q :: ps, _, h => by
    obtain ⟨c, hsigns, htree, hnest⟩ := exists_conjunct p h.1
    obtain ⟨d, hsigns', htrees, hnest'⟩ := exists_disjunction (q :: ps) (by simp) h.2
    refine ⟨.either c d, ?_, ?_, ?_⟩
    · rw [Disjunction.signs, hsigns, hsigns', Predicate.layoutList]
      simp
    · rw [Disjunction.trees, ← Conjunction.tree, htree, htrees]
      rfl
    · rw [Disjunction.nesting, hnest, hnest']
      rfl
  termination_by ps => (sizeOf ps, 0)

end

/-- **A printed tree has a derivation**, which stands for the collapsed tree and nests as
deep as the tree does in print. -/
theorem exists_condition (p : Predicate) (h : p.Printable) :
    ∃ d : Disjunction, d.signs = signsOf p.layout ∧ d.tree = p.collapsed ∧
      d.nesting = p.nesting := by
  by_cases hs : p.strength ≤ 0
  · cases p with
    | any ps =>
      obtain ⟨d, hsigns, htrees, hnest⟩ := exists_disjunction ps h.1 h.2
      refine ⟨d, hsigns, ?_, hnest⟩
      rw [Disjunction.tree, htrees]
      rfl
    | _ => exact absurd hs (by simp [Predicate.strength])
  · obtain ⟨c, hsigns, htree, hnest⟩ := exists_conjunct p h
    rw [if_neg hs] at hsigns hnest
    exact ⟨.last c, hsigns, htree, hnest⟩

/-! ## 4. Layouts are scanned -/

/-- Whether a piece may stand right behind another one. -/
def Piece.fits : Piece → Piece → Bool
  | token k, token k' => k.fits k'
  | _, _ => true

/-- Neighbours fit. -/
def Spaced (pieces : List Piece) : Prop :=
  pieces.IsChain fun a b => a.fits b = true

/-- Every sign has a spelling. -/
def Spelled (pieces : List Piece) : Prop :=
  ∀ k, .token k ∈ pieces → k.Spellable

/-- **A layout is scanned into its signs**, if neighbours fit and every sign has a spelling.  The
two conditions are shown of printed trees below. -/
theorem steps_layout : ∀ {pieces : List Piece} {st : Scanner.State} {ks : List TokenKind},
    st.Reads ks → (∀ k, pieces.head? = some (.token k) → st.stage.admits k = true) →
    Spaced pieces → Spelled pieces →
    ∃ st', Scanner.steps st (pieces.flatMap Piece.chars) = .ok st' ∧
      st'.Reads (ks ++ signsOf pieces)
  | [], st, ks, hr, _, _, _ => ⟨st, rfl, by simpa [signsOf] using hr⟩
  | .gap :: rest, st, ks, hr, _, hchain, hspell => by
    obtain ⟨st₁, hstep, hr₁, hbetween⟩ := Scanner.steps_blank (c := ' ') hr (by decide)
    obtain ⟨st', hrest, hr'⟩ := steps_layout hr₁ (fun k _ => by rw [hbetween]; rfl)
      hchain.tail fun k hk => hspell k (List.mem_cons_of_mem _ hk)
    refine ⟨st', ?_, hr'⟩
    rw [List.flatMap_cons, Piece.chars, Scanner.steps_append _ hstep]
    exact hrest
  | .token k :: rest, st, ks, hr, hadmits, hchain, hspell => by
    obtain ⟨st₁, hstep, hr₁, hfits⟩ :=
      Scanner.steps_spelling hr (hadmits k rfl) (hspell k (by simp))
    have hnext : ∀ k', rest.head? = some (.token k') → st₁.stage.admits k' = true := by
      intro k' hk'
      obtain ⟨rest', rfl⟩ := List.head?_eq_some_iff.mp hk'
      exact (hfits k').trans (List.isChain_cons_cons.mp hchain).1
    obtain ⟨st', hrest, hr'⟩ := steps_layout hr₁ hnext hchain.tail fun k' hk' =>
      hspell k' (List.mem_cons_of_mem _ hk')
    refine ⟨st', ?_, by simpa using hr'⟩
    rw [List.flatMap_cons, Piece.chars, Scanner.steps_append _ hstep, hrest]

theorem fits_openGroup (b : Piece) : (Piece.token .openGroup).fits b = true := by
  cases b <;> rfl

theorem fits_bang (b : Piece) : (Piece.token .bang).fits b = true := by
  cases b <;> rfl

theorem fits_closeGroup (a : Piece) : a.fits (.token .closeGroup) = true := by
  cases a with
  | gap => rfl
  | token k => cases k <;> rfl

/-- A child, in parentheses or not.  A parenthesis fits beside anything, so nothing has to be known
of the neighbours. -/
theorem spaced_child {ps : List Piece} (h : Spaced ps) (c : Prop) [Decidable c] :
    Spaced (if c then Predicate.group ps else ps) := by
  split
  · refine List.IsChain.append ?_ (.singleton _) ?_
    · exact h.cons fun b _ => fits_openGroup b
    · intro a _ b hb
      obtain rfl : .token .closeGroup = b := by simpa using hb
      exact fits_closeGroup a
  · exact h

/-- Anything fits beside a blank, which is why chains are printed with blanks around their
operators. -/
theorem spaced_gap {ps qs : List Piece} (hp : Spaced ps) (hq : Spaced qs) :
    Spaced (ps ++ .gap :: qs) := by
  refine List.IsChain.append hp (hq.cons ?_) ?_
  · intro b _
    cases b <;> rfl
  · intro a _ b hb
    obtain rfl : .gap = b := by simpa using hb
    cases a <;> rfl

mutual

/-- Neighbours fit in the layout of a tree, whether or not the tree can be printed. -/
theorem spaced_layout : ∀ p : Predicate, Spaced p.layout
  | .addressIs _ | .addressIn _ | .addressListed _ | .fieldIs _ _ | .fieldMatches _ _
  | .hitsAbove _ => by
    simp [Spaced, Predicate.layout, Predicate.triple, Piece.fits]
  | .not p => (spaced_child (spaced_layout p) (p.strength < 2)).cons fun b _ => fits_bang b
  | .all ps => spaced_layoutList 1 .both ps
  | .any ps => spaced_layoutList 0 .either ps

theorem spaced_layoutList (strength : Nat) (operator : TokenKind) : ∀ ps : List Predicate,
    Spaced (Predicate.layoutList strength operator ps)
  | [] => .nil
  | [p] => spaced_child (spaced_layout p) (p.strength ≤ strength)
  | p :: q :: ps => by
    have hfirst := spaced_child (spaced_layout p) (p.strength ≤ strength)
    have hrest := spaced_layoutList strength operator (q :: ps)
    have hoperator : Spaced [.token operator] := .singleton _
    rw [Predicate.layoutList, List.append_assoc]
    exact spaced_gap hfirst (spaced_gap hoperator hrest)

end

theorem spelled_append {ps qs : List Piece} (hp : Spelled ps) (hq : Spelled qs) :
    Spelled (ps ++ qs) := fun k hk =>
  (List.mem_append.mp hk).elim (hp k) (hq k)

theorem spelled_token {k : TokenKind} {ps : List Piece} (hk : k.Spellable) (hp : Spelled ps) :
    Spelled (.token k :: ps) := by
  intro k' hk'
  rcases List.mem_cons.mp hk' with e | hk'
  · obtain rfl := Piece.token.inj e
    exact hk
  · exact hp k' hk'

theorem spelled_gap {ps : List Piece} (hp : Spelled ps) : Spelled (.gap :: ps) :=
  fun k hk => hp k (by simpa using hk)

theorem spelled_nil : Spelled [] := fun _ hk => by cases hk

theorem spelled_triple {word : String} {relation object : TokenKind} (hw : IsWord word)
    (hr : relation.Spellable) (ho : object.Spellable) :
    Spelled (Predicate.triple word relation object) :=
  spelled_token hw (spelled_gap (spelled_token hr (spelled_gap (spelled_token ho spelled_nil))))

/-- A child, in parentheses or not.  Parentheses have spellings, so all depends on the child. -/
theorem spelled_child {ps : List Piece} (h : Spelled ps) (c : Prop) [Decidable c] :
    Spelled (if c then Predicate.group ps else ps) := by
  split
  · exact spelled_append (spelled_token trivial h) (spelled_token trivial spelled_nil)
  · exact h

theorem isWord_fieldWord {f : Field} (h : f.Printable) : IsWord (Predicate.fieldWord f) := by
  cases f with
  | host => decide
  | header name => exact h.1

mutual

/-- The signs in the layout of a tree that can be printed have spellings: its names are words, and
the sources in it can be put between slashes. -/
theorem spelled_layout : ∀ p : Predicate, p.Printable → Spelled p.layout
  | .addressIs a, _ => spelled_triple (by decide) trivial a.isWord_text
  | .addressIn b, _ => spelled_triple (by decide) trivial b.isWord_text
  | .addressListed _, h => spelled_triple (by decide) (show IsWord "in" by decide) h
  | .fieldIs _ _, h => spelled_triple (isWord_fieldWord h) trivial trivial
  | .fieldMatches _ p, h =>
    spelled_triple (isWord_fieldWord h.1) trivial ⟨h.2, p.openPair_source⟩
  | .hitsAbove n, _ => spelled_triple (by decide) trivial (isWord_toString n.toNat)
  | .not p, h => spelled_token trivial (spelled_child (spelled_layout p h) (p.strength < 2))
  | .all ps, h => spelled_layoutList 1 .both trivial ps h.2
  | .any ps, h => spelled_layoutList 0 .either trivial ps h.2

theorem spelled_layoutList (strength : Nat) (operator : TokenKind) (ho : operator.Spellable) :
    ∀ ps : List Predicate, Predicate.PrintableList ps →
    Spelled (Predicate.layoutList strength operator ps)
  | [], _ => spelled_nil
  | [p], h => spelled_child (spelled_layout p h.1) (p.strength ≤ strength)
  | p :: q :: ps, h => by
    have hfirst := spelled_child (spelled_layout p h.1) (p.strength ≤ strength)
    have hrest := spelled_layoutList strength operator ho (q :: ps) h.2
    rw [Predicate.layoutList, List.append_assoc]
    exact spelled_append hfirst (spelled_gap (spelled_token ho (spelled_gap hrest)))

end

/-- **A printed rule reads as a derivation** of its collapsed tree, which nests as deep as
the tree does in print. -/
theorem reads_text {r : Rule} (h : r.Printable) :
    ∃ d : Sentence, Reads r.text d ∧ d.condition.tree = r.predicate.collapsed ∧
      d.condition.nesting = r.predicate.nesting ∧ d.action = r.action := by
  obtain ⟨d, hsigns, htree, hnest⟩ := exists_condition r.predicate h.1
  have hspaced : Spaced r.layout :=
    spaced_gap (spaced_layout r.predicate)
      (@spaced_gap [.token .arrow] _ (.singleton _) (.singleton _))
  have hspelled : Spelled r.layout :=
    spelled_append (spelled_layout r.predicate h.1) (spelled_gap (spelled_token trivial
      (spelled_gap (spelled_token h.2 spelled_nil))))
  obtain ⟨st, hsteps, hreads⟩ := steps_layout Scanner.State.reads_start (fun _ _ => rfl)
    hspaced hspelled
  obtain ⟨tokens, hscan, hkinds⟩ := Scanner.scan_of_reads hsteps hreads
  have hlayout : signsOf r.layout = signsOf r.predicate.layout ++ [.arrow, .word r.action] := by
    rw [Rule.layout, signsOf_append]
    rfl
  refine ⟨⟨d, r.action⟩, ⟨tokens, ?_, ?_⟩, htree, hnest, rfl⟩
  · rw [Rule.text, String.toList_ofList]
    exact hscan
  · rw [hkinds, hlayout, Sentence.signs, hsigns]
    rfl

end Turnstile
