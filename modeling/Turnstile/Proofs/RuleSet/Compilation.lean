/-
# Compiling rule lists

`Compiles` says what it is for a list of configured rules to be in order, and what it stands for:
identifiers that are all different, texts that are rules, and names of lists that are defined.
`Offends` says what is wrong with one configured rule behind others.  Neither mentions the work.

**All or nothing, and exactly.**  Work that succeeds has made what the list stands for
(`Gate.compiles_of_compile`), from any pool.  The converse needs parsers: with a pool that is free
for the work (`Pool.Free`), a list that is in order is compiled (`Gate.compile_of_compiles`), and
one that is not fails with the fault of its first offender (`Gate.compile_of_offends`).  Each rule
gives its parser back, so the pool is as free for the next one, and nobody runs out of time.

**The first list that is missing** is the first in the text.  A tree has its leaves in source order:
its list names are the words behind `IP in` among the signs of the text (`listNames_of_parse`).
-/
import Mathlib.Data.List.Forall2
import Mathlib.Data.List.Induction
import Mathlib.Data.List.Nodup
import Turnstile.Proofs.Decision.Run
import Turnstile.Proofs.Pool.Reuse
import Turnstile.Proofs.Rule.Leaves
import Turnstile.Proofs.Rule.Recognition

namespace Turnstile

/-! ## 1. Names in source order -/

namespace Grammar

/-- The name of a list that a sign and those behind it give: `IP`, `in` and a word. -/
def listName? (k : TokenKind) : List TokenKind → Option String
  | k' :: .word list :: _ => if k = .word "IP" ∧ k' = .word "in" then some list else none
  | _ => none

/-- The names of lists among the signs of a rule, in their order. -/
def listNames : List TokenKind → List String
  | [] => []
  | k :: ks => (listName? k ks).toList ++ listNames ks

/-- Signs that `in` does not begin, as behind an operand. -/
def Parts (ks : List TokenKind) : Prop :=
  ks.head? ≠ some (.word "in")

/-- A name begins with `IP` only, so other signs can be passed over. -/
theorem listNames_cons {k : TokenKind} (h : k ≠ .word "IP") (ks : List TokenKind) :
    listNames (k :: ks) = listNames ks := by
  have hnone : listName? k ks = none := by
    unfold listName?
    split
    · exact if_neg fun hk => h hk.1
    · rfl
  rw [listNames, hnone]
  rfl

/-- No name begins in front of signs that do not begin with `in`, as is the case at the start of
every part of a condition. -/
theorem listNames_cons_of_parts (k : TokenKind) {ks : List TokenKind} (h : Parts ks) :
    listNames (k :: ks) = listNames ks := by
  have hnone : listName? k ks = none := by
    unfold listName?
    split
    · exact if_neg fun hk => h (by rw [hk.2]; rfl)
    · rfl
  rw [listNames, hnone]
  rfl

/-- A test of three signs gives no name unless `in` is the second.  What follows it begins a new
part, so no name goes across. -/
theorem listNames_three (w : String) {k : TokenKind} (k' : TokenKind) {rest : List TokenKind}
    (hk : ∀ w', k ≠ .word w') (h : Parts rest) :
    listNames (.word w :: k :: k' :: rest) = listNames rest := by
  have hparts : Parts (k :: k' :: rest) := fun hin => hk "in" (Option.some.inj hin)
  rw [listNames_cons_of_parts _ hparts, listNames_cons (hk "IP"), listNames_cons_of_parts _ h]

theorem listNames_test (t : Test) {rest : List TokenKind} (h : Parts rest) :
    listNames (t.signs ++ rest) = t.leaf.accessLists ++ listNames rest := by
  cases t with
  | addressListed list =>
    change list :: listNames (.word "in" :: .word list :: rest) = list :: listNames rest
    rw [listNames_cons (by simp), listNames_cons_of_parts _ h]
  | addressIs _ _ _ | addressIn _ _ _ | fieldIs _ _ | fieldMatches _ _ _ _ | hitsAbove _ _ _ =>
    exact listNames_three _ _ (by simp) h

mutual

/-- The tree of an operand has the names among its signs, in the same order and as often. -/
theorem Operand.listNames_signs : ∀ (o : Operand) {rest : List TokenKind}, Parts rest →
    listNames (o.signs ++ rest) = o.tree.accessLists ++ listNames rest
  | .test t, _, h => listNames_test t h
  | .bang o, rest, h => by
    rw [Operand.signs, List.cons_append, listNames_cons (by simp), Operand.listNames_signs o h]
    rfl
  | .group d, rest, h => by
    have hsigns : (Operand.group d).signs ++ rest =
        .openGroup :: (d.signs ++ .closeGroup :: rest) := by
      simp [Operand.signs]
    rw [hsigns, listNames_cons (by simp), Disjunction.listNames_signs d (by simp [Parts]),
      listNames_cons (by simp), Operand.tree, Predicate.accessLists_joinAny]

theorem Conjunction.listNames_signs : ∀ (c : Conjunction) {rest : List TokenKind}, Parts rest →
    listNames (c.signs ++ rest) = Predicate.accessListsOf c.trees ++ listNames rest
  | .last o, rest, h => by
    rw [Conjunction.signs, Operand.listNames_signs o h, Conjunction.trees, Predicate.accessListsOf,
      Predicate.accessListsOf, List.append_nil]
  | .both o c, rest, h => by
    rw [Conjunction.signs, List.append_assoc, Operand.listNames_signs o (by simp [Parts]),
      List.cons_append, listNames_cons (by simp), Conjunction.listNames_signs c h,
      Conjunction.trees, Predicate.accessListsOf, List.append_assoc]

theorem Disjunction.listNames_signs : ∀ (d : Disjunction) {rest : List TokenKind}, Parts rest →
    listNames (d.signs ++ rest) = Predicate.accessListsOf d.trees ++ listNames rest
  | .last c, rest, h => by
    rw [Disjunction.signs, Conjunction.listNames_signs c h, Disjunction.trees,
      Predicate.accessListsOf, Predicate.accessListsOf, List.append_nil,
      Predicate.accessLists_joinAll]
  | .either c d, rest, h => by
    rw [Disjunction.signs, List.append_assoc, Conjunction.listNames_signs c (by simp [Parts]),
      List.cons_append, listNames_cons (by simp), Disjunction.listNames_signs d h,
      Disjunction.trees, Predicate.accessListsOf, Predicate.accessLists_joinAll,
      List.append_assoc]

end

end Grammar

/-- **The lists of a rule stand in its tree as in its text.**  So what compilation checks can be
read off the text, without the parser. -/
theorem listNames_of_parse {id : RuleId} {text : String} {r : Rule}
    (h : Parser.parse id text = .ok r) :
    ∃ tokens, Scanner.scan text.toList = .ok tokens ∧
      Grammar.listNames (tokens.map Token.kind) = r.predicate.accessLists := by
  obtain ⟨d, ⟨tokens, hscan, hkinds⟩, -, rfl⟩ := Grammar.reads_of_parse h
  refine ⟨tokens, hscan, ?_⟩
  have hend : d.signs ++ [.finish] =
      d.condition.signs ++ (.arrow :: .word d.action :: [.finish]) := by
    simp [Grammar.Sentence.signs]
  rw [hkinds, hend, d.condition.listNames_signs (by simp [Grammar.Parts]),
    Grammar.listNames_cons (by simp), Grammar.listNames_cons_of_parts _ (by simp [Grammar.Parts]),
    Grammar.listNames_cons (by simp)]
  change _ ++ [] = (Predicate.joinAny _).accessLists
  rw [List.append_nil, Predicate.accessLists_joinAny]

/-! ## 2. What compiling is -/

/-- A configured rule is in order behind rules with other identifiers, and this is its rule. -/
structure RuleSource.Accepted (lists : AccessLists) (earlier : List RuleId) (c : RuleSource)
    (r : Rule) : Prop where
  fresh : c.id ∉ earlier
  parsed : Parser.parse c.id c.text = .ok r
  defined (list : String) : .addressListed list ∈ r.predicate.leaves → lists.isDefined list = true

/-- What is wrong with a configured rule behind rules with other identifiers.  Of several faults it
is the first one in this order, and of several missing lists the first in the text. -/
inductive RuleSource.Offends (lists : AccessLists) (earlier : List RuleId) (c : RuleSource) :
    Error → Prop
  | repeated (hid : c.id ∈ earlier) : Offends lists earlier c (.config (.duplicateId c.id))
  | refused {e : ParseError} (hid : c.id ∉ earlier) (htext : Parser.parse c.id c.text = .error e) :
    Offends lists earlier c (.parse e)
  | missing {r : Rule} {list : String} {before after : List Predicate} (hid : c.id ∉ earlier)
    (htext : Parser.parse c.id c.text = .ok r)
    (hleaves : r.predicate.leaves = before ++ .addressListed list :: after)
    (hbefore : ∀ other, .addressListed other ∈ before → lists.isDefined other = true)
    (hlist : lists.isDefined list = false) :
    Offends lists earlier c (.config (.unknownList c.id list))

/-- **A list of configured rules is in order**, and these are its rules. -/
structure Compiles (lists : AccessLists) (configs : List RuleSource) (rules : List Rule) :
    Prop where
  distinct : (configs.map RuleSource.id).Nodup
  parsed : List.Forall₂ (fun c r => Parser.parse c.id c.text = .ok r) configs rules
  defined : ∀ r ∈ rules, ∀ list, .addressListed list ∈ r.predicate.leaves →
    lists.isDefined list = true

variable {lists : AccessLists}

theorem Rule.missingList?_eq_none_iff {r : Rule} :
    r.missingList? lists = none ↔
      ∀ list, .addressListed list ∈ r.predicate.leaves → lists.isDefined list = true := by
  simp [Rule.missingList?, List.find?_eq_none, Predicate.mem_accessLists]

theorem Rule.missingList?_eq_some {r : Rule} {list : String}
    (h : r.missingList? lists = some list) :
    ∃ before after, r.predicate.leaves = before ++ .addressListed list :: after ∧
      (∀ other, .addressListed other ∈ before → lists.isDefined other = true) ∧
      lists.isDefined list = false := by
  obtain ⟨hlist, named, rest, hnames, hnamed⟩ := List.find?_eq_some_iff_append.1 h
  rw [Predicate.accessLists_eq_leaves] at hnames
  obtain ⟨before, behind, hleaves, rfl, hbehind⟩ := List.filterMap_eq_append_iff.1 hnames
  obtain ⟨others, leaf, after, rfl, hothers, hleaf, -⟩ := List.filterMap_eq_cons_iff.1 hbehind
  obtain rfl := Predicate.listed?_eq_some_iff.1 hleaf
  refine ⟨before ++ others, after, by rw [hleaves, List.append_assoc], ?_, by simpa using hlist⟩
  intro other hother
  rcases List.mem_append.1 hother with hother | hother
  · simpa using hnamed other (List.mem_filterMap.2 ⟨_, hother, rfl⟩)
  · cases hothers _ hother

theorem Rule.missingList?_eq_some_of_leaves {r : Rule} {list : String}
    {before after : List Predicate}
    (hleaves : r.predicate.leaves = before ++ .addressListed list :: after)
    (hbefore : ∀ other, .addressListed other ∈ before → lists.isDefined other = true)
    (hlist : lists.isDefined list = false) : r.missingList? lists = some list := by
  refine List.find?_eq_some_iff_append.2 ⟨by simpa using hlist, before.filterMap Predicate.listed?,
    after.filterMap Predicate.listed?, ?_, ?_⟩
  · rw [Predicate.accessLists_eq_leaves, hleaves, List.filterMap_append]
    rfl
  · intro other hother
    obtain ⟨leaf, hleaf, hlisted⟩ := List.mem_filterMap.1 hother
    obtain rfl := Predicate.listed?_eq_some_iff.1 hlisted
    simpa using hbefore other hleaf

namespace RuleSource

/-- Any configured rule is in order or has a fault.  The faults are in the order in which they are
looked for, so it has one only. -/
theorem accepted_or_offends (lists : AccessLists) (earlier : List RuleId) (c : RuleSource) :
    (∃ r, c.Accepted lists earlier r) ∨ ∃ e, c.Offends lists earlier e := by
  by_cases hid : c.id ∈ earlier
  · exact .inr ⟨_, .repeated hid⟩
  · rcases htext : Parser.parse c.id c.text with e | r
    · exact .inr ⟨_, .refused hid htext⟩
    · rcases hmissing : r.missingList? lists with _ | list
      · exact .inl ⟨r, hid, htext, Rule.missingList?_eq_none_iff.1 hmissing⟩
      · obtain ⟨before, after, hleaves, hbefore, hlist⟩ := Rule.missingList?_eq_some hmissing
        exact .inr ⟨_, .missing hid htext hleaves hbefore hlist⟩

/-- No fault is a matter of parsers: each is there or not by the text, the identifiers before and
the lists. -/
theorem Offends.ne_poolTimeout {earlier : List RuleId} {c : RuleSource} {e : Error}
    (h : c.Offends lists earlier e) (waited : Duration) : e ≠ .poolTimeout waited := by
  rintro rfl
  cases h

end RuleSource

namespace Compiles

variable {configs : List RuleSource} {rules : List Rule}

theorem nil : Compiles lists [] [] :=
  ⟨List.nodup_nil, .nil, fun _ h => absurd h List.not_mem_nil⟩

/-- The rules have the identifiers that are configured, in the same order, so a repeated one can be
looked for in either list. -/
theorem ids (h : Compiles lists configs rules) :
    rules.map Rule.id = configs.map RuleSource.id := by
  have hparsed := h.parsed
  clear h
  induction hparsed with
  | nil => rfl
  | cons hhead _ ih =>
    obtain ⟨d, -, -, rfl⟩ := Grammar.reads_of_parse hhead
    rw [List.map_cons, List.map_cons, ih]
    rfl

/-- Every rule was parsed from some configured text, under the identifier configured with it. -/
theorem exists_source (h : Compiles lists configs rules) {r : Rule} (hr : r ∈ rules) :
    ∃ c ∈ configs, Parser.parse c.id c.text = .ok r := by
  have hparsed := h.parsed
  clear h
  induction hparsed with
  | nil => cases hr
  | cons hhead _ ih =>
    rcases List.mem_cons.1 hr with rfl | hr
    · exact ⟨_, List.mem_cons_self, hhead⟩
    · obtain ⟨c, hc, hparse⟩ := ih hr
      exact ⟨c, List.mem_cons_of_mem _ hc, hparse⟩

/-- **One more configured rule.**  The work goes from the front to the back, so lists grow at the
end. -/
theorem concat (h : Compiles lists configs rules) {c : RuleSource} {r : Rule}
    (hc : c.Accepted lists (configs.map RuleSource.id) r) :
    Compiles lists (configs ++ [c]) (rules ++ [r]) where
  distinct := by
    rw [List.map_append, List.map_singleton, ← List.concat_eq_append]
    exact (List.nodup_concat _ _).2 ⟨hc.fresh, h.distinct⟩
  parsed := List.rel_append h.parsed (.cons hc.parsed .nil)
  defined := by
    intro r' hr'
    rcases List.mem_append.1 hr' with hr' | hr'
    · exact h.defined r' hr'
    · rw [List.mem_singleton.1 hr']
      exact hc.defined

/-- **One configured rule less.**  A list that compiles has nothing but rules in order before its
last one. -/
theorem of_concat {c : RuleSource} (h : Compiles lists (configs ++ [c]) rules) :
    ∃ rules' r, rules = rules' ++ [r] ∧ Compiles lists configs rules' ∧
      c.Accepted lists (configs.map RuleSource.id) r := by
  obtain ⟨hdistinct, hparsed, hdefined⟩ := h
  rw [List.map_append, List.map_singleton, ← List.concat_eq_append, List.nodup_concat] at hdistinct
  rw [← List.forall₂_reverse_iff, List.reverse_append, List.reverse_singleton,
    List.singleton_append, List.forall₂_cons_left_iff] at hparsed
  obtain ⟨r, rest, hr, hrest, hrules⟩ := hparsed
  rw [List.reverse_eq_cons_iff] at hrules
  subst hrules
  rw [← List.reverse_reverse rest, List.forall₂_reverse_iff] at hrest
  exact ⟨rest.reverse, r, rfl,
    ⟨hdistinct.2, hrest, fun r' hr' => hdefined r' (List.mem_append_left _ hr')⟩,
    hdistinct.1, hr, hdefined r (List.mem_append_right _ (List.mem_singleton_self r))⟩

/-- **A list is in order, or some rule in it is the first with a fault.**  This dichotomy is what
turns the two halves below into equivalences. -/
theorem or_offends (lists : AccessLists) (configs : List RuleSource) :
    (∃ rules, Compiles lists configs rules) ∨
    ∃ before c after rules e, configs = before ++ c :: after ∧ Compiles lists before rules ∧
      c.Offends lists (before.map RuleSource.id) e := by
  induction configs using List.reverseRecOn with
  | nil => exact .inl ⟨[], nil⟩
  | append_singleton configs c ih =>
    obtain ⟨rules, h⟩ | ⟨before, c', after, rules, e, rfl, h, hc'⟩ := ih
    · obtain ⟨r, hc⟩ | ⟨e, hc⟩ := c.accepted_or_offends lists (configs.map RuleSource.id)
      · exact .inl ⟨_, h.concat hc⟩
      · exact .inr ⟨configs, c, [], rules, e, rfl, h, hc⟩
    · exact .inr ⟨before, c', after ++ [c], rules, e, by simp, h, hc'⟩

end Compiles

/-! ## 3. Parsers for the work -/

/-- **A pool that is free for one's own work**: nobody else has a parser or waits for one. -/
structure Pool.Free (p : Pool) : Prop where
  all_idle : p.created = p.idle.length
  no_line : p.waiting = []

namespace Pool.Free

theorem new (capacity : Nat) : (Pool.new capacity).Free := ⟨rfl, rfl⟩

/-- A free pool has a parser to give, and is free again when it is given back, with whatever in
it. -/
theorem arrive {p : Pool} (h : p.Free) :
    ∃ w p', p.arrive = (.granted w, p') ∧ ∀ w', (p'.release w').Free := by
  obtain ⟨hidle, hline⟩ := h
  rcases p.arrive_cases with ⟨-, w, idle, hi, ha⟩ | ⟨-, hi, -, ha⟩ | ⟨hfull, -⟩
  · refine ⟨w, _, ha, fun w' => ⟨?_, hline⟩⟩
    rw [hi] at hidle
    exact hidle
  · refine ⟨{}, _, ha, fun w' => ⟨?_, hline⟩⟩
    rw [hi] at hidle
    simp [Pool.release, hidle, hi]
  · -- a pool without idle parsers that has made as many as it may would have lent one
    obtain ⟨hi, hcap⟩ := hfull hline
    have hpos := p.capacity_pos
    rw [hi, List.length_nil] at hidle
    omega

end Pool.Free

/-- In a lobby where nobody holds a parser, nobody waits either but those who have been called.  If
none has been called, whoever comes next is granted one. -/
theorem Lobby.Sound.free {s : Lobby} (h : s.Sound) (hheld : s.held = [])
    (hturn : ∀ ticket, s.pool.isTurn ticket = false) : s.pool.Free := by
  have hcount : s.pool.idle.length = s.pool.created := by
    have hlength := h.serials.length_eq
    rw [hheld, List.append_nil, List.length_range, h.stocked] at hlength
    exact hlength
  refine ⟨hcount.symm, ?_⟩
  by_contra hline
  have hfull := h.full hline
  obtain ⟨ticket, rest, hwaiting⟩ := List.exists_cons_of_ne_nil hline
  have hpos := s.pool.capacity_pos
  rcases hidle : s.pool.idle with _ | ⟨w, idle⟩
  · rw [hidle, List.length_nil] at hcount
    omega
  · have := (s.pool.isTurn_iff ticket).2 ⟨rest, w, idle, hwaiting, hidle⟩
    rw [hturn ticket] at this
    cases this

namespace Gate

variable {g : Gate}

/-- A rule that is made is what a new parser makes of it, for any pool, since only the wait depends
on the pool. -/
theorem parse_of_newRule {id : RuleId} {text : String} {r : Rule}
    (h : (g.newRule id text).1 = .ok r) : Parser.parse id text = .ok r := by
  rcases hg : g.acquire with ⟨e | w, g'⟩
  · rw [newRule, hg] at h
    cases h
  · rw [(newRule_granted hg id text).1] at h
    rcases hparse : Parser.parse id text with e | r'
    · rw [hparse] at h
      cases h
    · rw [hparse] at h
      exact congrArg Except.ok (Except.ok.inj h)

/-- **With a free pool a rule is made or refused**, and the pool is free again.  A refusal is then
that of the parser and never a matter of waiting. -/
theorem newRule_of_free (h : g.pool.Free) (id : RuleId) (text : String) :
    (g.newRule id text).1 = (Parser.parse id text).mapError .parse ∧
    (g.newRule id text).2.pool.Free := by
  obtain ⟨w, pool, harrive, hrelease⟩ := h.arrive
  have hg : g.acquire = (.ok w, { g with pool }) := by
    rw [acquire, harrive]
  obtain ⟨hresult, hpool, -⟩ := newRule_granted hg id text
  exact ⟨hresult, by rw [hpool]; exact hrelease _⟩

/-! ## 4. The work -/

/-- What the work on a configured rule comes to, with the rules that have been compiled and those
that are still to come. -/
inductive Compiling (g : Gate) (done : List Rule) (c : RuleSource) (cs : List RuleSource) :
    Except Error (List Rule) × Gate → Prop
  | repeated (hid : c.id ∈ done.map Rule.id) :
    Compiling g done c cs (.error (.config (.duplicateId c.id)), g)
  | refused {e : Error} {g' : Gate} (hid : c.id ∉ done.map Rule.id)
    (hrule : g.newRule c.id c.text = (.error e, g')) : Compiling g done c cs (.error e, g')
  | missing {r : Rule} {list : String} {g' : Gate} (hid : c.id ∉ done.map Rule.id)
    (hrule : g.newRule c.id c.text = (.ok r, g')) (hlist : r.missingList? g.lists = some list) :
    Compiling g done c cs (.error (.config (.unknownList c.id list)), g')
  | added {r : Rule} {g' : Gate} (hid : c.id ∉ done.map Rule.id)
    (hrule : g.newRule c.id c.text = (.ok r, g')) (hlist : r.missingList? g.lists = none) :
    Compiling g done c cs (g'.compileFrom (done ++ [r]) cs)

theorem compiling (g : Gate) (done : List Rule) (c : RuleSource) (cs : List RuleSource) :
    Compiling g done c cs (g.compileFrom done (c :: cs)) := by
  have hany : done.any (·.id == c.id) = true ↔ c.id ∈ done.map Rule.id := by
    simp [List.any_eq_true, List.mem_map]
  have hlists := (newRule_agrees g c.id c.text).lists
  rw [compileFrom]
  split
  · next h => exact .repeated (hany.1 h)
  · next h =>
    have hid := mt hany.2 h
    rcases hrule : g.newRule c.id c.text with ⟨e | r, g'⟩
    · exact .refused hid hrule
    · rw [hrule] at hlists
      change g'.lists = g.lists at hlists
      dsimp only
      rw [hlists]
      rcases hlist : r.missingList? g.lists with _ | list
      · exact .added hid hrule hlist
      · exact .missing hid hrule hlist

variable {configs : List RuleSource} {rules : List Rule}

/-- **Work that succeeds has made what the list stands for**, whatever the pool.  A pool that is not
free can only make the work fail. -/
theorem compiles_of_compileFrom : ∀ {cs : List RuleSource} {g : Gate} {configs : List RuleSource}
    {done rules : List Rule}, Compiles g.lists configs done →
    (g.compileFrom done cs).1 = .ok rules → Compiles g.lists (configs ++ cs) rules
  | [], g, configs, done, rules, hdone, h => by
    rw [List.append_nil, ← Except.ok.inj h]
    exact hdone
  | c :: cs, g, configs, done, rules, hdone, h => by
    have hstep := compiling g done c cs
    generalize g.compileFrom done (c :: cs) = out at h hstep
    cases hstep with
    | repeated _ => cases h
    | refused _ _ => cases h
    | missing _ _ _ => cases h
    | @added r g' hid hrule hlist =>
      have hlists : g'.lists = g.lists := by
        rw [← (newRule_agrees g c.id c.text).lists, hrule]
      have hc : c.Accepted g.lists (configs.map RuleSource.id) r :=
        ⟨hdone.ids ▸ hid, parse_of_newRule (by rw [hrule]), Rule.missingList?_eq_none_iff.1 hlist⟩
      have hrest := compiles_of_compileFrom (hlists ▸ hdone.concat hc) h
      rw [List.append_assoc, hlists] at hrest
      exact hrest

theorem compile_fst (g : Gate) (configs : List RuleSource) :
    (g.compile configs).1 = (g.compileFrom [] configs).1.map RuleSet.mk := rfl

theorem compiles_of_compile {set : RuleSet} (h : (g.compile configs).1 = .ok set) :
    Compiles g.lists configs set.rules := by
  rw [compile_fst] at h
  rcases hfrom : (g.compileFrom [] configs).1 with e | rules
  · rw [hfrom] at h
    cases h
  · rw [hfrom] at h
    obtain rfl := Except.ok.inj h
    exact compiles_of_compileFrom .nil hfrom

/-- A rule that is in order is compiled, and the work goes on behind it with the pool that is
left. -/
theorem compileFrom_accepted (h : g.pool.Free) {done : List Rule} {c : RuleSource} {r : Rule}
    (hc : c.Accepted g.lists (done.map Rule.id) r) (cs : List RuleSource) :
    g.compileFrom done (c :: cs) = (g.newRule c.id c.text).2.compileFrom (done ++ [r]) cs := by
  have hresult := (newRule_of_free h c.id c.text).1
  rw [hc.parsed] at hresult
  have hstep := compiling g done c cs
  generalize g.compileFrom done (c :: cs) = out at hstep
  cases hstep with
  | repeated hid => exact absurd hid hc.fresh
  | refused _ hrule =>
    rw [hrule] at hresult
    cases hresult
  | missing _ hrule hlist =>
    rw [hrule] at hresult
    obtain rfl := Except.ok.inj hresult
    rw [Rule.missingList?_eq_none_iff.2 hc.defined] at hlist
    cases hlist
  | added _ hrule _ =>
    rw [hrule] at hresult
    obtain rfl := Except.ok.inj hresult
    rw [hrule]

/-- A rule with a fault ends the work, so nothing behind it is looked at. -/
theorem compileFrom_offends (h : g.pool.Free) {done : List Rule} {c : RuleSource} {e : Error}
    (hc : c.Offends g.lists (done.map Rule.id) e) (cs : List RuleSource) :
    (g.compileFrom done (c :: cs)).1 = .error e := by
  have hresult := (newRule_of_free h c.id c.text).1
  have hstep := compiling g done c cs
  generalize g.compileFrom done (c :: cs) = out at hstep
  cases hc with
  | repeated hid =>
    cases hstep with
    | repeated _ => rfl
    | refused hid' _ | missing hid' _ _ | added hid' _ _ => exact absurd hid hid'
  | refused hid htext =>
    rw [htext] at hresult
    cases hstep with
    | repeated hid' => exact absurd hid' hid
    | refused _ hrule =>
      rw [hrule] at hresult
      exact congrArg Except.error (Except.error.inj hresult)
    | missing _ hrule _ | added _ hrule _ =>
      rw [hrule] at hresult
      cases hresult
  | @missing r list before after hid htext hleaves hbefore hlist =>
    have hfirst := Rule.missingList?_eq_some_of_leaves hleaves hbefore hlist
    rw [htext] at hresult
    cases hstep with
    | repeated hid' => exact absurd hid' hid
    | refused _ hrule =>
      rw [hrule] at hresult
      cases hresult
    | missing _ hrule hlist' =>
      rw [hrule] at hresult
      obtain rfl := Except.ok.inj hresult
      obtain rfl := Option.some.inj (hfirst.symm.trans hlist')
      rfl
    | added _ hrule hlist' =>
      rw [hrule] at hresult
      obtain rfl := Except.ok.inj hresult
      rw [hfirst] at hlist'
      cases hlist'

/-- **Rules that are in order are compiled**, and the work goes on behind them with a free pool. -/
theorem compileFrom_append : ∀ (configs : List RuleSource) {rules : List Rule},
    g.pool.Free → Compiles g.lists configs rules →
    ∃ g' : Gate, g'.pool.Free ∧ g'.lists = g.lists ∧
      ∀ cs, g.compileFrom [] (configs ++ cs) = g'.compileFrom rules cs := by
  intro configs
  induction configs using List.reverseRecOn with
  | nil =>
    intro rules hfree h
    obtain rfl := List.forall₂_nil_left_iff.1 h.parsed
    exact ⟨g, hfree, rfl, fun _ => rfl⟩
  | append_singleton configs c ih =>
    intro rules hfree h
    obtain ⟨rules, r, rfl, hrules, hc⟩ := h.of_concat
    obtain ⟨g', hfree', hlists, hwork⟩ := ih hfree hrules
    rw [← hrules.ids, ← hlists] at hc
    refine ⟨(g'.newRule c.id c.text).2, (newRule_of_free hfree' _ _).2,
      (newRule_agrees g' _ _).lists.trans hlists, fun cs => ?_⟩
    rw [List.append_assoc, List.singleton_append, hwork]
    exact compileFrom_accepted hfree' hc cs

/-- **A list that is in order is compiled**, with a free pool, to the rules that it stands for. -/
theorem compile_of_compiles (hfree : g.pool.Free) (h : Compiles g.lists configs rules) :
    (g.compile configs).1 = .ok ⟨rules⟩ := by
  obtain ⟨g', -, -, hwork⟩ := compileFrom_append configs hfree h
  rw [compile_fst, ← List.append_nil configs, hwork]
  rfl

/-- **The first rule with a fault decides**, with a free pool, whatever comes behind it in the
list. -/
theorem compile_of_offends (hfree : g.pool.Free) (h : Compiles g.lists configs rules)
    {c : RuleSource} {e : Error} (hc : c.Offends g.lists (configs.map RuleSource.id) e)
    (cs : List RuleSource) : (g.compile (configs ++ c :: cs)).1 = .error e := by
  obtain ⟨g', hfree', hlists, hwork⟩ := compileFrom_append configs hfree h
  rw [← h.ids, ← hlists] at hc
  rw [compile_fst, hwork, compileFrom_offends hfree' hc]
  rfl

theorem compile_free (hfree : g.pool.Free) (configs : List RuleSource) :
    (g.compile configs).2.pool.Free :=
  compile_keeps (P := fun g => g.pool.Free) (fun _ id text h => (newRule_of_free h id text).2)
    hfree configs

/-- **When work on a list succeeds, and with what.**  The right side speaks of texts, identifiers
and lists only. -/
theorem compile_ok_iff (hfree : g.pool.Free) {set : RuleSet} :
    (g.compile configs).1 = .ok set ↔ Compiles g.lists configs set.rules :=
  ⟨compiles_of_compile, compile_of_compiles hfree⟩

/-- **When it fails, and why**: some rule has a fault, and all those before it are in order. -/
theorem compile_error_iff (hfree : g.pool.Free) {e : Error} :
    (g.compile configs).1 = .error e ↔
      ∃ before c after rules, configs = before ++ c :: after ∧ Compiles g.lists before rules ∧
        c.Offends g.lists (before.map RuleSource.id) e := by
  constructor
  · intro h
    obtain ⟨rules, hrules⟩ | ⟨before, c, after, rules, e', rfl, hrules, hc⟩ :=
      Compiles.or_offends g.lists configs
    · rw [compile_of_compiles hfree hrules] at h
      cases h
    · rw [compile_of_offends hfree hrules hc] at h
      obtain rfl := Except.error.inj h
      exact ⟨before, c, after, rules, rfl, hrules, hc⟩
  · rintro ⟨before, c, after, rules, rfl, hrules, hc⟩
    exact compile_of_offends hfree hrules hc after

end Gate

end Turnstile
