/-
# Lists that rules consult

Two readings of a tree have to agree.  When a rule is compiled its lists are collected from the
whole tree, and all of them have to be defined; when it is evaluated, lists are looked up leaf by
leaf, as far as the evaluation comes.  A leaf that the first reading forgot would name a list that
nobody has checked, and a name that no list has is answered with no.

**The collection holds every name that is ever looked up** (`list_mem_accessLists`), in the order of
the text.  So for rules that were compiled each look-up finds a list, and what would be answered for
a name without one makes no difference (`consulted_lists_defined`).
-/
import Turnstile.Proofs.Decision.FirstMatch
import Turnstile.Proofs.Evaluation.Tree
import Turnstile.Proofs.RuleSet.Compilation

namespace Turnstile

/-! ## 1. Names that are looked up -/

theorem Predicate.fact?_eq_list_iff {leaf : Predicate} {name : String} :
    leaf.fact? = some (.list name) ↔ leaf = addressListed name := by
  cases leaf with
  | fieldIs f _ | fieldMatches f _ => cases f <;> simp [fact?, Field.fact]
  | _ => simp [fact?]

/-- **Every name that is looked up has been collected**, whatever the facts are.  Evaluation may
stop before the last leaf, so the other inclusion does not hold. -/
theorem list_mem_accessLists {facts : Facts} {p : Predicate} {name : String}
    (h : .list name ∈ (evaluate facts p).reads) : name ∈ p.accessLists := by
  obtain ⟨leaf, hleaf, hfact⟩ := List.mem_filterMap.1 ((reads_sublist facts p).subset h)
  rw [Predicate.fact?_eq_list_iff] at hfact
  rw [Predicate.mem_accessLists, ← hfact]
  exact hleaf

/-- **Names that have not been collected may be answered in any way**, because no leaf of the tree
asks about them. -/
theorem evaluate_congr_inList {facts : Facts} {p : Predicate} {inList : String → Bool}
    (h : ∀ name ∈ p.accessLists, inList name = facts.inList name) :
    evaluate { facts with inList } p = evaluate facts p := by
  refine evaluate_congr p ?_
  intro leaf hleaf
  cases leaf with
  | addressListed name =>
    have hname := h name (Predicate.mem_accessLists.2 hleaf)
    exact congrArg (Evaluation.reading (.list name)) hname
  | not _ | all _ | any _ => exact absurd rfl (Predicate.fact?_ne_none_of_mem_leaves hleaf)
  | addressIs _ | addressIn _ | fieldIs _ _ | fieldMatches _ _ | hitsAbove _ => rfl

/-! ## 2. Names without a list -/

/-- Whether the list under a name holds an address, where names without a list are answered in a
given way. -/
def AccessLists.containsOr (lists : AccessLists) (unknown : String → Bool) (name : String)
    (a : Address) : Bool :=
  match lists.get? name with
  | some blocks => blocks.any (admits a)
  | none => unknown name

/-- The facts of a request, where names without a list are answered in a given way. -/
def Facts.consulting (r : Request) (hits : UInt64) (lists : AccessLists)
    (unknown : String → Bool) : Facts :=
  { Facts.ofRequest r hits lists with
    inList := fun name => lists.containsOr unknown name r.address }

namespace AccessLists

variable {lists : AccessLists} {name : String}

theorem isDefined_iff : lists.isDefined name = true ↔ ∃ blocks, lists.get? name = some blocks :=
  Option.isSome_iff_exists

/-- A name that is defined is answered by its list, so that the answer for unknown names is never
taken. -/
theorem containsOr_of_isDefined (h : lists.isDefined name = true) (unknown : String → Bool)
    (a : Address) : lists.containsOr unknown name a = lists.contains name a := by
  obtain ⟨blocks, hblocks⟩ := isDefined_iff.1 h
  rw [containsOr, contains, hblocks]

end AccessLists

/-- **Where all names are defined** it makes no difference how others would be answered.
Compilation grants the hypothesis, so what the engine does with an unknown list cannot be seen. -/
theorem evaluate_consulting {lists : AccessLists} {p : Predicate}
    (h : ∀ list, .addressListed list ∈ p.leaves → lists.isDefined list = true) (r : Request)
    (hits : UInt64) (unknown : String → Bool) :
    evaluate (.consulting r hits lists unknown) p = evaluate (.ofRequest r hits lists) p := by
  refine evaluate_congr_inList ?_
  intro name hname
  exact AccessLists.containsOr_of_isDefined (h name (Predicate.mem_accessLists.1 hname)) unknown _

/-! ## 3. Rules that were compiled -/

/-- **Compiled rules consult defined lists only.**  For rules that were compiled with some lists,
every gate with these lists, every request and every hit count: each name that is looked up has a
list, for each rule and for the search through all of them.  What would be answered for a name
without a list changes no evaluation and no decision.  For every tree and whatever the facts are,
each name that is looked up is among those that were collected, and no other name bears on the
evaluation; they are collected from the leaves in their order, which is that of the text. -/
theorem consulted_lists_defined :
    (∀ (g : Gate) (configs : List RuleSource) (set : RuleSet), (g.compile configs).1 = .ok set →
      ∀ evaluator : Gate, evaluator.lists = g.lists → ∀ r : Request,
        (∀ (hits : UInt64) (name : String),
          (∀ rule ∈ set.rules,
            .list name ∈ (evaluate (.ofRequest r hits evaluator.lists) rule.predicate).reads →
              ∃ blocks, evaluator.lists.get? name = some blocks) ∧
          (.list name ∈ (firstMatch (.ofRequest r hits evaluator.lists) set.rules).reads →
            ∃ blocks, evaluator.lists.get? name = some blocks)) ∧
        ∀ unknown : String → Bool,
          (∀ (hits : UInt64), ∀ rule ∈ set.rules,
            evaluate (.consulting r hits evaluator.lists unknown) rule.predicate =
              evaluate (.ofRequest r hits evaluator.lists) rule.predicate) ∧
          (evaluator.decide set.rules r).1 =
            verdict evaluator.defaultAction
              (.consulting r (evaluator.table.recordHit r.address).1 evaluator.lists unknown)
              set.rules) ∧
    (∀ (facts : Facts) (p : Predicate) (name : String),
      .list name ∈ (evaluate facts p).reads → name ∈ p.accessLists) ∧
    (∀ (facts : Facts) (p : Predicate) (inList : String → Bool),
      (∀ name ∈ p.accessLists, inList name = facts.inList name) →
        evaluate { facts with inList } p = evaluate facts p) ∧
    (∀ p : Predicate, p.accessLists = p.leaves.filterMap Predicate.listed?) ∧
    (∀ id text rule, Parser.parse id text = .ok rule →
      ∃ tokens, Scanner.scan text.toList = .ok tokens ∧
        Grammar.listNames (tokens.map Token.kind) = rule.predicate.accessLists) := by
  refine ⟨?_, fun _ _ _ => list_mem_accessLists, fun _ _ _ => evaluate_congr_inList,
    Predicate.accessLists_eq_leaves, fun _ _ _ => listNames_of_parse⟩
  intro g configs set hcompile evaluator hlists r
  have hdefined := (Gate.compiles_of_compile hcompile).defined
  rw [← hlists] at hdefined
  have hrule : ∀ (hits : UInt64) (name : String), ∀ rule ∈ set.rules,
      .list name ∈ (evaluate (.ofRequest r hits evaluator.lists) rule.predicate).reads →
        ∃ blocks, evaluator.lists.get? name = some blocks := by
    intro hits name rule hmem hread
    have hleaf := Predicate.mem_accessLists.1 (list_mem_accessLists hread)
    exact AccessLists.isDefined_iff.1 (hdefined rule hmem name hleaf)
  have hevaluate : ∀ (unknown : String → Bool) (hits : UInt64), ∀ rule ∈ set.rules,
      evaluate (.consulting r hits evaluator.lists unknown) rule.predicate =
        evaluate (.ofRequest r hits evaluator.lists) rule.predicate :=
    fun unknown hits rule hmem => evaluate_consulting (hdefined rule hmem) r hits unknown
  constructor
  · intro hits name
    refine ⟨hrule hits name, ?_⟩
    intro hread
    obtain ⟨rule, hmem, hread⟩ := exists_rule_of_mem_reads set.rules hread
    exact hrule hits name rule hmem hread
  · intro unknown
    refine ⟨hevaluate unknown, ?_⟩
    rw [Gate.decide_fst, verdict_eq, verdict_eq, Gate.facts,
      firstMatch_congr set.rules (hevaluate unknown _)]

/-- Two lists are looked up one after the other, the first of which is empty.  To let everyone into
lists that are not there changes nothing. -/
theorem consulted_lists_defined_crossing :
    ∃ (g : Gate) (text : String) (rule : Rule) (r : Request),
      text = "!IP in office && IP in home => pass" ∧
      (g.compile [⟨1, text⟩]).1 = .ok ⟨[rule]⟩ ∧
      (∃ blocks, g.lists.get? "office" = some blocks) ∧
      (∃ blocks, g.lists.get? "home" = some blocks) ∧
      (g.decide [rule] r).1 = .ok ⟨"pass", some 1⟩ ∧
      verdict g.defaultAction
        (.consulting r (g.table.recordHit r.address).1 g.lists fun _ => true) [rule] =
          .ok ⟨"pass", some 1⟩ ∧
      "office" ∈ rule.predicate.accessLists ∧
      evaluate { Facts.ofRequest r 1 g.lists with inList := fun name => name == "home" }
        rule.predicate = evaluate (.ofRequest r 1 g.lists) rule.predicate ∧
      ∃ tokens, Scanner.scan text.toList = .ok tokens ∧
        Grammar.listNames (tokens.map Token.kind) = rule.predicate.accessLists := by
  obtain ⟨hcompiled, hcollected, hcongr, -, htext⟩ := consulted_lists_defined
  have hparse : Parser.parse 1 "!IP in office && IP in home => pass" =
      .ok ⟨1, .all [.not (.addressListed "office"), .addressListed "home"], "pass"⟩ := rfl
  let tens : Block := .v4 ⟨0x0A000000#32, 8, by decide, by decide⟩
  let g : Gate :=
    { lists := (AccessLists.empty.insert "office" []).insert "home" [tens] }
  let text := "!IP in office && IP in home => pass"
  let rule : Rule :=
    ⟨1, .all [.not (.addressListed "office"), .addressListed "home"], "pass"⟩
  let r : Request := .ofAddress (.v4 0x0A000001#32)
  have hnames : ∀ name ∈ rule.predicate.accessLists, name = "office" ∨ name = "home" := by
    simp [rule, Predicate.accessLists, Predicate.accessListsOf]
  have hcompile : (g.compile [⟨1, text⟩]).1 = .ok ⟨[rule]⟩ := by
    refine Gate.compile_of_compiles (Pool.Free.new _) ⟨by decide, .cons hparse .nil, ?_⟩
    intro rule' hrule name hname
    rw [List.mem_singleton.1 hrule] at hname
    rcases hnames name (Predicate.mem_accessLists.2 hname) with rfl | rfl
    · rfl
    · rfl
  have hreads : (evaluate (.ofRequest r 1 g.lists) rule.predicate).reads =
      [.list "office", .list "home"] := rfl
  have hpass : (g.decide [rule] r).1 = .ok ⟨"pass", some 1⟩ := rfl
  obtain ⟨hread, hunknown⟩ := hcompiled g [⟨1, text⟩] ⟨[rule]⟩ hcompile g rfl r
  refine ⟨g, text, rule, r, rfl, hcompile, ?_, ?_, hpass, ?_, ?_, ?_, htext 1 text rule hparse⟩
  · exact (hread 1 "office").1 rule List.mem_cons_self (by rw [hreads]; simp)
  · exact (hread 1 "home").1 rule List.mem_cons_self (by rw [hreads]; simp)
  · exact ((hunknown fun _ => true).2.symm.trans hpass :)
  · exact hcollected (.ofRequest r 1 g.lists) _ _ (by rw [hreads]; simp)
  · refine hcongr (.ofRequest r 1 g.lists) rule.predicate _ ?_
    intro name hname
    rcases hnames name hname with rfl | rfl
    · rfl
    · rfl

end Turnstile
