/-
# How high the trees of rules are

The bound on open signs is one on the trees that come out of the parser.  A negation adds one node
to a path from the root, and a group at most two, a disjunction and a conjunction in it, however
many operands stand side by side; redundant parentheses add none.  So a rule has at most
`2 * 64 + 3` nodes on any path (`Disjunction.within`).

What is computed from a tree node by node, from the results for the children, makes one call within
another for each node on a path.  `foldWithin` is such a computation with a limit on the calls that
are open, and **evaluation, printing and the collection of lists all run within the height of their
tree** (`foldWithin_eq`).

`nesting_bounded` puts this together with the count of open signs (`depth_eq_opened`).
-/
import Turnstile.Evaluation
import Turnstile.Proofs.Rule.Depth
import Turnstile.Rule.Printer

namespace Turnstile

/-! ## 1. Trees by their height -/

namespace Predicate

/-- The trees right below the root. -/
def children : Predicate → List Predicate
  | not p => [p]
  | all ps | any ps => ps
  | _ => []

/-- The nodes from the root of a tree down to some node. -/
inductive Path : Predicate → List Predicate → Prop
  | root (p : Predicate) : Path p [p]
  | down {p q : Predicate} {path : List Predicate} (h : q ∈ p.children) (rest : Path q path) :
    Path p (p :: path)

/-- The tree is no higher than this. -/
inductive Within : Nat → Predicate → Prop
  | intro {n : Nat} {p : Predicate} (h : ∀ q ∈ p.children, Within n q) : Within (n + 1) p

variable {n : Nat} {p : Predicate}

theorem Within.mono {m : Nat} (h : Within n p) (hle : n ≤ m) : Within m p := by
  induction h generalizing m with
  | intro _ ih =>
    obtain ⟨m, rfl⟩ := Nat.exists_eq_add_of_le' (Nat.le_trans (Nat.succ_pos _) hle)
    exact .intro fun q hq => ih q hq (Nat.le_of_succ_le_succ hle)

/-- **No path is longer than the tree is high.**  So the height bounds how deep any walk down the
tree can go. -/
theorem Within.path_length_le (h : Within n p) {path : List Predicate} (hpath : p.Path path) :
    path.length ≤ n := by
  induction hpath generalizing n with
  | root p =>
    cases h
    exact Nat.succ_pos _
  | down hq _ ih =>
    obtain ⟨h⟩ := h
    exact Nat.succ_le_succ (ih (h _ hq))

/-- Joining trees adds one node to their paths, or none if there is one tree only. -/
theorem within_joinAll {ps : List Predicate} (h : ∀ p ∈ ps, Within n p) :
    (joinAll ps).Within (n + 1) := by
  unfold joinAll
  split
  · exact (h _ List.mem_cons_self).mono (Nat.le_succ n)
  · exact .intro h

theorem within_joinAny {ps : List Predicate} (h : ∀ p ∈ ps, Within n p) :
    (joinAny ps).Within (n + 1) := by
  unfold joinAny
  split
  · exact (h _ List.mem_cons_self).mono (Nat.le_succ n)
  · exact .intro h

end Predicate

namespace Grammar

open Predicate

/-- A leaf is its only node, whichever test it comes from, so its paths have the length one. -/
theorem Test.within (t : Test) : t.leaf.Within 1 := by
  cases t
  all_goals exact .intro nofun

mutual

/-- **Two nodes for each sign that an operand opens**, and the leaf.  A bracket may hold a
disjunction of conjunctions, which are the two. -/
theorem Operand.within : ∀ o : Operand, o.tree.Within (2 * o.nesting + 1)
  | .test t => t.within
  | .bang o => by
    refine .intro fun q hq => ?_
    obtain rfl := List.mem_singleton.1 hq
    exact (Operand.within o).mono (by rw [Operand.nesting]; omega)
  | .group d => within_joinAny (Disjunction.within d)

theorem Conjunction.within : ∀ c : Conjunction, ∀ p ∈ c.trees, p.Within (2 * c.nesting + 1)
  | .last o, p, hp => by
    obtain rfl := List.mem_singleton.1 hp
    exact Operand.within o
  | .both o c, p, hp => by
    rw [Conjunction.nesting]
    rcases List.mem_cons.1 hp with rfl | hp
    · exact (Operand.within o).mono (by omega)
    · exact (Conjunction.within c p hp).mono (by omega)

theorem Disjunction.within : ∀ d : Disjunction, ∀ p ∈ d.trees, p.Within (2 * d.nesting + 2)
  | .last c, p, hp => by
    obtain rfl := List.mem_singleton.1 hp
    exact within_joinAll (Conjunction.within c)
  | .either c d, p, hp => by
    rw [Disjunction.nesting]
    rcases List.mem_cons.1 hp with rfl | hp
    · exact (within_joinAll (Conjunction.within c)).mono (by omega)
    · exact (Disjunction.within d p hp).mono (by omega)

end

/-- **The tree of a rule is bounded by the bound on open signs.**  Two nodes more come from the
condition itself, which needs no bracket. -/
theorem within_of_parse {id : RuleId} {text : String} {r : Rule}
    (h : Parser.parse id text = .ok r) : r.predicate.Within (2 * Parser.maxDepth + 3) := by
  obtain ⟨d, -, hnest, rfl⟩ := reads_of_parse h
  exact (within_joinAny (Disjunction.within d.condition)).mono (by omega)

end Grammar

/-! ## 2. Computations over trees -/

namespace Predicate

variable {α : Type} {node : Predicate → List α → α} {f : Predicate → α}

/-- Works out a tree from its nodes, each from the results for its children.  A call is open while
those for the children are made, and at most `calls` of them are open at a time. -/
def foldWithin (node : Predicate → List α → α) : (calls : Nat) → Predicate → Option α
  | 0, _ => none
  | calls + 1, p => (p.children.mapM (foldWithin node calls)).map (node p)

/-- A function of trees that is worked out in this way. -/
def FoldsBy (node : Predicate → List α → α) (f : Predicate → α) : Prop :=
  ∀ p, f p = node p (p.children.map f)

/-- **As many calls are enough as the tree is high**, for any function that is a fold of the tree;
evaluation and printing are of this kind. -/
theorem foldWithin_eq (hf : FoldsBy node f) {n : Nat} {p : Predicate} (h : Within n p) :
    foldWithin node n p = some (f p) := by
  induction h with
  | @intro n p _ ih =>
    have hchildren : ∀ ps : List Predicate, (∀ q ∈ ps, foldWithin node n q = some (f q)) →
        ps.mapM (foldWithin node n) = some (ps.map f) := by
      intro ps hps
      induction ps with
      | nil => rfl
      | cons q ps ihps =>
        obtain ⟨hq, hps⟩ := List.forall_mem_cons.1 hps
        rw [List.mapM_cons, hq, ihps hps]
        rfl
    rw [foldWithin, hchildren _ ih, Option.map_some, ← hf p]

/-! ## 3. Three of them -/

/-- The evaluation of a node, from those of its children.  A leaf needs none. -/
def evaluateNode (facts : Facts) : Predicate → List Evaluation → Evaluation
  | not _, [] => .pure false
  | not _, e :: _ => e.negate
  | all _, es => es.foldr (fun e rest => e.andThen fun holds =>
      if holds then rest else .pure false) (.pure true)
  | any _, es => es.foldr (fun e rest => e.andThen fun holds =>
      if holds then .pure true else rest) (.pure false)
  | p, _ => evaluate facts p

theorem evaluate_foldsBy (facts : Facts) : FoldsBy (evaluateNode facts) (evaluate facts) := by
  have hall : ∀ ps,
      evaluateAll facts ps = evaluateNode facts (all ps) (ps.map (evaluate facts)) := by
    intro ps
    induction ps with
    | nil => rfl
    | cons p ps ih => rw [evaluateAll, ih]; rfl
  have hany : ∀ ps,
      evaluateAny facts ps = evaluateNode facts (any ps) (ps.map (evaluate facts)) := by
    intro ps
    induction ps with
    | nil => rfl
    | cons p ps ih => rw [evaluateAny, ih]; rfl
  intro p
  cases p with
  | all ps => exact hall ps
  | any ps => exact hany ps
  | _ => rfl

/-- The pieces of children side by side, with the node's operator between them. -/
def beside (strength : Nat) (operator : TokenKind) : List (Predicate × List Piece) → List Piece
  | [] => []
  | (p, inner) :: rest =>
    let first := if p.strength ≤ strength then group inner else inner
    match rest with
    | [] => first
    | _ :: _ => first ++ [.gap, .token operator, .gap] ++ beside strength operator rest

/-- The pieces of a node, from those of its children.  A leaf has its own. -/
def layoutNode : Predicate → List (List Piece) → List Piece
  | not _, [] => []
  | not p, inner :: _ => .token .bang :: if p.strength < 2 then group inner else inner
  | all ps, inners => beside 1 .both (ps.zip inners)
  | any ps, inners => beside 0 .either (ps.zip inners)
  | p, _ => p.layout

theorem layout_foldsBy : FoldsBy layoutNode layout := by
  have hlist : ∀ strength operator ps, layoutList strength operator ps =
      beside strength operator (ps.zip (ps.map layout)) := by
    intro strength operator ps
    induction ps with
    | nil => rfl
    | cons p ps ih =>
      cases ps with
      | nil => rfl
      | cons q ps => rw [layoutList, ih]; rfl
  intro p
  cases p with
  | all ps => exact hlist 1 .both ps
  | any ps => exact hlist 0 .either ps
  | _ => rfl

/-- The lists that a node names, with those of its children. -/
def accessListsNode : Predicate → List (List String) → List String
  | addressListed list, _ => [list]
  | _, lists => lists.flatten

theorem accessLists_foldsBy : FoldsBy accessListsNode accessLists := by
  have hlist : ∀ ps, accessListsOf ps = (ps.map accessLists).flatten := by
    intro ps
    induction ps with
    | nil => rfl
    | cons p ps ih => rw [accessListsOf, ih]; rfl
  intro p
  cases p with
  | not p => simp [accessLists, accessListsNode, children]
  | all ps => exact hlist ps
  | any ps => exact hlist ps
  | _ => rfl

end Predicate

/-! ## 4. Nesting -/

namespace Parser

open Predicate

/-- **Nesting is bounded, and counted exactly.**  At every point of every run the count is the
number of the signs `!` and `(` that are open, it is 64 at most, and whatever is taken off it is
there.  The points of a run are those that the parser comes by on a text, it is left at one of them,
and behind a rule nothing is open.  No path in the tree of a rule has more than 131 nodes, and to
evaluate the tree, to print it and to collect its lists takes no more than that many calls at a
time. -/
theorem nesting_bounded :
    (∀ (ts : List TokenKind) (st : State), feeds {} ts = .ok st →
      st.depth.toNat = opened ts ∧ st.depth.toNat ≤ 64 ∧ st.Covered) ∧
    (∀ (w : Workspace) (id : RuleId) (text : String) (tokens : List Token),
      Scanner.scan text.toList = .ok tokens →
        ∃ before after, tokens = before ++ after ∧
          feeds {} (before.map Token.kind) = .ok (w.parse id text).2.state) ∧
    (∀ (w : Workspace) (id : RuleId) (text : String) (r : Rule),
      (w.parse id text).1 = .ok r → (w.parse id text).2.state.depth = 0) ∧
    (∀ (id : RuleId) (text : String) (r : Rule), parse id text = .ok r →
      (∀ path, r.predicate.Path path → path.length ≤ 2 * 64 + 3) ∧
      (∀ facts, foldWithin (evaluateNode facts) (2 * 64 + 3) r.predicate =
        some (evaluate facts r.predicate)) ∧
      foldWithin layoutNode (2 * 64 + 3) r.predicate = some r.predicate.layout ∧
      foldWithin accessListsNode (2 * 64 + 3) r.predicate = some r.predicate.accessLists) := by
  refine ⟨fun ts st h => ?_, fun w id text tokens hscan => ?_, fun w id text r h =>
    depth_parse h, fun id text r h => ?_⟩
  · have hcounted := State.Counted.start.feeds h
    refine ⟨depth_eq_opened h, ?_, hcounted.covered⟩
    rw [hcounted.depth_eq]
    exact hcounted.due_le
  · obtain ⟨before, after, htokens, hbefore⟩ := feeds_take tokens {}
    refine ⟨before, after, htokens, ?_⟩
    rw [hbefore, parse_of_scan hscan]
  · have hwithin : r.predicate.Within (2 * 64 + 3) := Grammar.within_of_parse h
    exact ⟨fun path hpath => hwithin.path_length_le hpath,
      fun facts => foldWithin_eq (evaluate_foldsBy facts) hwithin,
      foldWithin_eq layout_foldsBy hwithin, foldWithin_eq accessLists_foldsBy hwithin⟩

/-- Behind the test in `!(Hits > 3` two signs are open.  A text that ends there leaves its parser
with both, and one that goes on with `) => reject` leaves it with none. -/
theorem nesting_bounded_group :
    opened [.bang, .openGroup, .word "Hits", .greater, .word "3"] = 2 ∧
    (∃ ts, feeds {} ts = .ok (Workspace.parse {} 1 "!(Hits > 3").2.state) ∧
    (Workspace.parse {} 1 "!(Hits > 3").2.state.depth = 2 ∧
    (Workspace.parse {} 1 "!(Hits > 3) => reject").2.state.depth = 0 ∧
    ∀ path, (Predicate.not (.hitsAbove 3)).Path path → path.length ≤ 131 := by
  obtain ⟨hcount, hleft, hzero, htree⟩ := nesting_bounded
  have hparse : parse 1 "!(Hits > 3) => reject" = .ok ⟨1, .not (.hitsAbove 3), "reject"⟩ := rfl
  obtain ⟨hdepth, -, -⟩ :=
    hcount [.bang, .openGroup, .word "Hits", .greater, .word "3"] _ rfl
  obtain ⟨before, -, -, hbefore⟩ := hleft {} 1 "!(Hits > 3" _ rfl
  exact ⟨hdepth.symm, ⟨_, hbefore⟩, rfl, hzero {} 1 _ _ hparse, (htree 1 _ _ hparse).1⟩

end Parser

end Turnstile
