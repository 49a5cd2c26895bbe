/-
# Replacing the active rules

A shelf is the shared rule set of a service: it holds the rules that are active and the sets that
readers have taken from it.  Rules come to it in three ways: a list is compiled and put in place at
once, a set is put in place as it is, and a reader takes what is there.

**A list that does not compile changes nothing**, and one that compiles is active as a whole
(`Shelf.step_reload_error`, `Shelf.step_reload_ok`).  Whoever makes the rules reads no rules that
are active (`Gate.compile_withActive`), so a list compiles as if nothing were, and all that
`Compilation.lean` says of it holds here.

**What compiled rules are good for stays true.**  As long as only compiled sets are put in place,
the active one has been compiled (`Shelf.run_compiled`), hence its identifiers differ and its lists
are defined.  Where the lists may change between one reload and the next, they are those that it was
compiled with.
-/
import Turnstile.Proofs.RuleSet.Compilation

namespace Turnstile

/-! ## 1. The shelf -/

/-- The rules that are active, and the sets that readers have taken, oldest first. -/
structure Shelf where
  active : RuleSet
  taken : List RuleSet := []

/-- What is done to a shelf.  Each list is compiled by a gate with lists and parsers of its own. -/
inductive Change where
  | reload (g : Gate) (configs : List RuleSource)
  | store (rules : RuleSet)
  | load

namespace Shelf

/-- One change, and what whoever makes it is told. -/
def step (s : Shelf) : Change → Except Error Unit × Shelf
  | .reload g configs =>
    let (result, g) := { g with active := s.active }.reload configs
    (result, { s with active := g.active })
  | .store rules => (.ok (), { s with active := rules })
  | .load => (.ok (), { s with taken := s.taken ++ [s.active] })

/-- The shelf behind several changes. -/
def run (s : Shelf) : List Change → Shelf
  | [] => s
  | c :: cs => run (s.step c).2 cs

end Shelf

/-! ## 2. One reload -/

namespace Gate

/-- Rules are made without a look at those that are active, and leave them, so a reload may be
worked out beside the running engine. -/
theorem newRule_withActive (g : Gate) (active : RuleSet) (id : RuleId) (text : String) :
    { g with active }.newRule id text =
      ((g.newRule id text).1, { (g.newRule id text).2 with active }) := by
  unfold newRule acquire measure
  dsimp only
  rcases g.pool.arrive with ⟨w | ticket, pool⟩
  · rfl
  · rcases g.patience with _ | patience
    · rfl
    · rfl

/-- **So are lists of rules**, by induction along the list with the gate that each rule leaves. -/
theorem compile_withActive (g : Gate) (active : RuleSet) (configs : List RuleSource) :
    { g with active }.compile configs =
      ((g.compile configs).1, { (g.compile configs).2 with active }) := by
  obtain ⟨hresult, hafter⟩ := compileFrom_related (R := fun g' g => g' = { g with active })
    (fun g' g h => by rw [h])
    (fun g' g rule text h => by
      rw [h, newRule_withActive]
      exact ⟨rfl, rfl⟩)
    configs { g with active } g [] rfl
  exact Prod.ext (congrArg (Except.map RuleSet.mk) hresult) hafter

end Gate

namespace Shelf

variable {s : Shelf} {g : Gate} {configs : List RuleSource}

/-- **A reload that fails** leaves the shelf as it was, and fails as the list does.  Nothing of the
rules made so far can be seen. -/
theorem step_reload_error {e : Error} (h : (g.compile configs).1 = .error e) :
    s.step (.reload g configs) = (.error e, s) := by
  simp only [step, Gate.reload, Gate.compile_withActive, h]

/-- **A reload that succeeds** puts in place what the list is compiled to, and nothing else; the set
before is out of use at once. -/
theorem step_reload_ok {rules : RuleSet} (h : (g.compile configs).1 = .ok rules) :
    s.step (.reload g configs) = (.ok (), { s with active := rules }) := by
  simp only [step, Gate.reload, Gate.compile_withActive, h, Gate.store]

/-! ## 3. Many changes -/

/-- What readers have taken stays with them, whatever is put in place afterwards. -/
theorem taken_step (s : Shelf) (c : Change) : s.taken <+: (s.step c).2.taken := by
  cases c with
  | reload g configs => exact List.prefix_rfl
  | store rules => exact List.prefix_rfl
  | load => exact List.prefix_append _ _

theorem taken_run : ∀ (cs : List Change) (s : Shelf), s.taken <+: (s.run cs).taken
  | [], _ => List.prefix_rfl
  | c :: cs, s => (s.taken_step c).trans (taken_run cs (s.step c).2)

end Shelf

/-- A set that was compiled, with lists that are in question. -/
def RuleSet.Compiled (among : AccessLists → Prop) (rules : RuleSet) : Prop :=
  ∃ (g : Gate) (configs : List RuleSource), among g.lists ∧ (g.compile configs).1 = .ok rules

/-- Changes that put compiled sets in place only, with lists that are in question. -/
def Change.Checked (among : AccessLists → Prop) : Change → Prop
  | .reload g _ => among g.lists
  | .store rules => rules.Compiled among
  | .load => True

/-- **A set that is fit for use** with some lists. -/
structure RuleSet.Fit (lists : AccessLists) (rules : RuleSet) : Prop where
  distinct : (rules.rules.map Rule.id).Nodup
  defined : ∀ r ∈ rules.rules, ∀ list, .addressListed list ∈ r.predicate.leaves →
    lists.isDefined list = true

/-- Compiled sets are fit: distinct identifiers, and no list that is looked up without being
defined. -/
theorem RuleSet.Compiled.fit {among : AccessLists → Prop} {rules : RuleSet}
    (h : rules.Compiled among) : ∃ lists, among lists ∧ rules.Fit lists := by
  obtain ⟨g, configs, hlists, hcompile⟩ := h
  have hrules := Gate.compiles_of_compile hcompile
  refine ⟨g.lists, hlists, ?_, hrules.defined⟩
  rw [hrules.ids]
  exact hrules.distinct

namespace Shelf

variable {among : AccessLists → Prop}

theorem step_compiled {s : Shelf} (h : s.active.Compiled among) {c : Change}
    (hc : c.Checked among) : (s.step c).2.active.Compiled among := by
  cases c with
  | reload g configs =>
    rcases hcompile : (g.compile configs).1 with e | rules
    · rw [step_reload_error hcompile]
      exact h
    · rw [step_reload_ok hcompile]
      exact ⟨g, configs, hc, hcompile⟩
  | store rules => exact hc
  | load => exact h

/-- **The active set stays one that was compiled**, through any sequence of reloads and readings,
those that fail included. -/
theorem run_compiled : ∀ (cs : List Change) {s : Shelf}, s.active.Compiled among →
    (∀ c ∈ cs, c.Checked among) → (s.run cs).active.Compiled among
  | [], _, h, _ => h
  | c :: cs, _, h, hcs =>
    run_compiled cs (step_compiled h (hcs c List.mem_cons_self))
      fun c' hc' => hcs c' (List.mem_cons_of_mem c hc')

end Shelf

/-! ## 4. All or nothing -/

/-- **A list of rules is compiled as a whole or not at all, and reloaded likewise.**  With a pool
that is free for the work, of any capacity and with any patience, a list compiles exactly if it is
in order, and then to its rules in their order; it fails exactly with the fault of the first rule
that has one behind rules that are in order, never for want of a parser, and leaves the pool free.
A pool is free when it is new, and whenever nobody holds a parser and nobody's turn has come.  Names
of lists are in a tree in the order of the text.  A reload fails as the list does and leaves all, or
puts the compiled set in place and leaves the rest; readers keep what they have taken.  So if only
compiled sets are put in place, the active one has different identifiers and names lists that are
defined where it was compiled. -/
theorem rules_all_or_nothing :
    (∀ (g : Gate) (configs : List RuleSource), g.pool.Free →
      (∀ set, (g.compile configs).1 = .ok set ↔ Compiles g.lists configs set.rules) ∧
      (∀ e, (g.compile configs).1 = .error e ↔
        ∃ before c after rules, configs = before ++ c :: after ∧ Compiles g.lists before rules ∧
          c.Offends g.lists (before.map RuleSource.id) e) ∧
      (∀ waited, (g.compile configs).1 ≠ .error (.poolTimeout waited)) ∧
      (g.compile configs).2.pool.Free) ∧
    (∀ capacity, (Pool.new capacity).Free) ∧
    (∀ (capacity : Nat) (timed : Bool) (s : Lobby), Lobby.Reachable capacity timed s →
      s.held = [] → (∀ ticket, s.pool.isTurn ticket = false) → s.pool.Free) ∧
    (∀ id text r, Parser.parse id text = .ok r →
      ∃ tokens, Scanner.scan text.toList = .ok tokens ∧
        Grammar.listNames (tokens.map Token.kind) =
          r.predicate.leaves.filterMap Predicate.listed?) ∧
    (∀ (s : Shelf) (g : Gate) (configs : List RuleSource),
      (∃ e, (g.compile configs).1 = .error e ∧ s.step (.reload g configs) = (.error e, s)) ∨
      (∃ set, (g.compile configs).1 = .ok set ∧
        s.step (.reload g configs) = (.ok (), { s with active := set }))) ∧
    (∀ (s : Shelf) (changes : List Change), s.taken <+: (s.run changes).taken) ∧
    (∀ (among : AccessLists → Prop) (s : Shelf) (changes : List Change),
      s.active.Compiled among → (∀ c ∈ changes, c.Checked among) →
      ∃ lists, among lists ∧ (s.run changes).active.Fit lists) := by
  refine ⟨?_, Pool.Free.new, ?_, ?_, ?_, ?_, ?_⟩
  · intro g configs hfree
    refine ⟨fun set => Gate.compile_ok_iff hfree, fun e => Gate.compile_error_iff hfree, ?_,
      Gate.compile_free hfree configs⟩
    intro waited h
    obtain ⟨before, c, after, rules, -, -, hc⟩ := (Gate.compile_error_iff hfree).1 h
    exact hc.ne_poolTimeout waited rfl
  · intro capacity timed s hs hheld hturn
    exact hs.sound.free hheld hturn
  · intro id text r h
    obtain ⟨tokens, hscan, hnames⟩ := listNames_of_parse h
    exact ⟨tokens, hscan, hnames.trans r.predicate.accessLists_eq_leaves⟩
  · intro s g configs
    rcases hcompile : (g.compile configs).1 with e | set
    · exact .inl ⟨e, rfl, Shelf.step_reload_error hcompile⟩
    · exact .inr ⟨set, rfl, Shelf.step_reload_ok hcompile⟩
  · intro s changes
    exact Shelf.taken_run changes s
  · intro among s changes hactive hchanges
    exact (Shelf.run_compiled changes hactive hchanges).fit

/-- A pool of no parsers, for which one is taken, and no time at all: the second of three rules
names two lists, of which the first is missing, and no more is read.  The rules that were reloaded
before stay. -/
theorem rules_all_or_nothing_misfit :
    ∃ g : Gate, g.pool = .new 0 ∧ g.patience = some ⟨0⟩ ∧
      (g.compile [⟨1, "Hits > 1 => a"⟩, ⟨2, "IP in office || IP in home => b"⟩, ⟨1, "("⟩]).1 =
        .error (.config (.unknownList 2 "office")) ∧
      (g.compile [⟨3, "IP in home => c"⟩]).1 = .ok ⟨[⟨3, .addressListed "home", "c"⟩]⟩ ∧
      ∃ lists, lists = g.lists ∧
        (({ active := ⟨[]⟩ } : Shelf).run [.reload g [⟨3, "IP in home => c"⟩], .load,
          .reload g [⟨2, "IP in office => b"⟩]]).active.Fit lists := by
  obtain ⟨hcompile, hnew, -, -, -, -, hactive⟩ := rules_all_or_nothing
  refine ⟨{ lists := AccessLists.empty.insert "home" [], pool := .new 0, patience := some ⟨0⟩ },
    rfl, rfl, ?_, ?_, ?_⟩
  · have hfirst : Parser.parse 1 "Hits > 1 => a" = .ok ⟨1, .hitsAbove 1, "a"⟩ := rfl
    have hsecond : Parser.parse 2 "IP in office || IP in home => b" =
        .ok ⟨2, .any [.addressListed "office", .addressListed "home"], "b"⟩ := rfl
    refine ((hcompile _ _ (hnew 0)).2.1 _).2 ⟨[⟨1, "Hits > 1 => a"⟩], ⟨2, _⟩, [⟨1, "("⟩],
      [⟨1, .hitsAbove 1, "a"⟩], rfl, ⟨by decide, .cons hfirst .nil, ?_⟩,
      .missing (by decide) hsecond rfl (fun _ h => absurd h List.not_mem_nil) rfl⟩
    intro r hr list hlist
    rw [List.mem_singleton.1 hr] at hlist
    cases List.mem_singleton.1 hlist
  · have hrule : Parser.parse 3 "IP in home => c" = .ok ⟨3, .addressListed "home", "c"⟩ := rfl
    refine ((hcompile _ _ (hnew 0)).1 _).2 ⟨by decide, .cons hrule .nil, ?_⟩
    intro r hr list hlist
    rw [List.mem_singleton.1 hr] at hlist
    cases List.mem_singleton.1 hlist
    rfl
  · refine hactive (· = _) _ _ ⟨{ lists := AccessLists.empty.insert "home" [] }, [], rfl, rfl⟩ ?_
    simp [Change.Checked]

end Turnstile
