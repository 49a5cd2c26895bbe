/-
# What was read determines the result

An evaluation is told the facts of a request one by one, as it asks for them.  What it asks for next
depends on the answers so far, so two sets of facts that agree on all that was read under the first
make for the same questions, in the same order, and for the same result.  Who keeps the reads of a
decision can tell what it was made from, and for which requests it may be used again.

**The step is one evaluation behind another** (`Evaluation.andThen_of_agree`): agreement on the
reads of both gives the first one, so its outcome, so which evaluation comes next.  Trees follow by
induction (`evaluate_of_agree`) and lists of rules in the same way (`firstMatch_of_agree`).

**Each read is that of one leaf**, and the leaves come in the order of the text
(`exists_visited`); none of them belongs to a rule behind the one that decides.
-/
import Turnstile.Proofs.Decision.FirstMatch

namespace Turnstile

/-! ## 1. Agreement on a fact -/

namespace Facts

variable {facts facts' : Facts}

/-- Two sets of facts give the same answer to a question. -/
def Agree (facts facts' : Facts) : Fact → Prop
  | .address => facts.address = facts'.address
  | .host => facts.host = facts'.host
  | .header name => facts.header name = facts'.header name
  | .hits => facts.hits = facts'.hits
  | .list name => facts.inList name = facts'.inList name

theorem Agree.field {f : Field} (h : facts.Agree facts' f.fact) :
    facts.field f = facts'.field f := by
  cases f with
  | host => exact h
  | header name => exact h

end Facts

/-! ## 2. Two evaluations -/

/-- **An evaluation behind another one** is the same if both agree with what they read.  What comes
next is only asked about for the answer that the first one gives. -/
theorem Evaluation.andThen_of_agree {e e' : Evaluation} {next next' : Bool → Evaluation}
    {Same : Fact → Prop} (he : (∀ fact ∈ e.reads, Same fact) → e' = e)
    (hnext : ∀ holds, (∀ fact ∈ (next holds).reads, Same fact) → next' holds = next holds)
    (h : ∀ fact ∈ (e.andThen next).reads, Same fact) : e'.andThen next' = e.andThen next := by
  rcases houtcome : e.outcome with m | holds
  · have hstop : e.andThen next = e := by rw [andThen, houtcome]
    rw [hstop] at h ⊢
    rw [he h, andThen, houtcome]
  · have hreads : (e.andThen next).reads = e.reads ++ (next holds).reads := by
      rw [andThen, houtcome]
    rw [hreads] at h
    have hfront := he fun fact hfact => h fact (List.mem_append_left _ hfact)
    have hback := hnext holds fun fact hfact => h fact (List.mem_append_right _ hfact)
    rw [hfront, andThen, andThen, houtcome]
    simp only [hback]

mutual

/-- **Facts that agree with all that was read** make for the same evaluation, with the same outcome
and the same reads.  The hypothesis looks at one run only, so it can be checked after the fact. -/
theorem evaluate_of_agree {facts facts' : Facts} : ∀ p : Predicate,
    (∀ fact ∈ (evaluate facts p).reads, facts.Agree facts' fact) →
      evaluate facts' p = evaluate facts p
  | .addressIs a, h => by
    have haddress : facts.address = facts'.address := h .address (List.mem_singleton_self _)
    rw [evaluate, evaluate, haddress]
  | .addressIn block, h => by
    have haddress : facts.address = facts'.address := h .address (List.mem_singleton_self _)
    rw [evaluate, evaluate, haddress]
  | .addressListed list, h => by
    have hlist : facts.inList list = facts'.inList list :=
      h (.list list) (List.mem_singleton_self _)
    rw [evaluate, evaluate, hlist]
  | .fieldIs f v, h => by
    have hfield := Facts.Agree.field (h f.fact (List.mem_singleton_self _))
    rw [evaluate, evaluate, hfield]
  | .fieldMatches f p, h => by
    have hfield := Facts.Agree.field (h f.fact (List.mem_singleton_self _))
    rw [evaluate, evaluate, hfield]
  | .hitsAbove n, h => by
    have hhits : facts.hits = facts'.hits := h .hits (List.mem_singleton_self _)
    rw [evaluate, evaluate, hhits]
  | .not p, h => by
    rw [evaluate] at h ⊢
    rw [evaluate, evaluate_of_agree p h]
  | .all ps, h => by
    rw [evaluate] at h ⊢
    rw [evaluate, evaluateAll_of_agree ps h]
  | .any ps, h => by
    rw [evaluate] at h ⊢
    rw [evaluate, evaluateAny_of_agree ps h]

theorem evaluateAll_of_agree {facts facts' : Facts} : ∀ ps : List Predicate,
    (∀ fact ∈ (evaluateAll facts ps).reads, facts.Agree facts' fact) →
      evaluateAll facts' ps = evaluateAll facts ps
  | [], _ => rfl
  | p :: ps, h => by
    rw [evaluateAll] at h ⊢
    rw [evaluateAll]
    refine Evaluation.andThen_of_agree (evaluate_of_agree p) ?_ h
    rintro (_ | _) hrest
    · rfl
    · exact evaluateAll_of_agree ps hrest

theorem evaluateAny_of_agree {facts facts' : Facts} : ∀ ps : List Predicate,
    (∀ fact ∈ (evaluateAny facts ps).reads, facts.Agree facts' fact) →
      evaluateAny facts' ps = evaluateAny facts ps
  | [], _ => rfl
  | p :: ps, h => by
    rw [evaluateAny] at h ⊢
    rw [evaluateAny]
    refine Evaluation.andThen_of_agree (evaluate_of_agree p) ?_ h
    rintro (_ | _) hrest
    · exact evaluateAny_of_agree ps hrest
    · rfl

end

/-- **So do rules that are tried one after the other**: the same rule or error is found, after the
same reads. -/
theorem firstMatch_of_agree {facts facts' : Facts} : ∀ rules : List Rule,
    (∀ fact ∈ (firstMatch facts rules).reads, facts.Agree facts' fact) →
      firstMatch facts' rules = firstMatch facts rules
  | [], _ => rfl
  | rule :: rules, h => by
    rcases hrule : (evaluate facts rule.predicate).outcome with m | (_ | _)
    · have hselection : firstMatch facts (rule :: rules) =
          ⟨.error ⟨rule.id, m⟩, (evaluate facts rule.predicate).reads⟩ := by
        simp only [firstMatch, hrule]
      rw [hselection] at h
      rw [firstMatch, firstMatch, evaluate_of_agree _ h]
      simp only [hrule]
    · have hselection : (firstMatch facts (rule :: rules)).reads =
          (evaluate facts rule.predicate).reads ++ (firstMatch facts rules).reads := by
        simp only [firstMatch, hrule]
      rw [hselection] at h
      have hfront := evaluate_of_agree _ fun fact hfact => h fact (List.mem_append_left _ hfact)
      have hback := firstMatch_of_agree rules fun fact hfact =>
        h fact (List.mem_append_right _ hfact)
      rw [firstMatch, firstMatch, hfront, hback]
    · have hselection : firstMatch facts (rule :: rules) =
          ⟨.ok (some rule), (evaluate facts rule.predicate).reads⟩ := by
        simp only [firstMatch, hrule]
      rw [hselection] at h
      rw [firstMatch, firstMatch, evaluate_of_agree _ h]
      simp only [hrule]

/-! ## 3. One read for each leaf -/

namespace Rule

/-- The leaves of rules, in their order. -/
def leavesOf (rules : List Rule) : List Predicate :=
  rules.flatMap fun rule => rule.predicate.leaves

end Rule

/-- Rules that are tried read what their leaves ask, in their order, and each leaf is asked at most
once. -/
theorem firstMatch_reads_sublist (facts : Facts) : ∀ rules : List Rule,
    (firstMatch facts rules).reads.Sublist ((Rule.leavesOf rules).filterMap Predicate.fact?)
  | [] => List.nil_sublist _
  | rule :: rules => by
    have hfront := reads_sublist facts rule.predicate
    rw [Rule.leavesOf, List.flatMap_cons, List.filterMap_append, firstMatch]
    rcases hrule : (evaluate facts rule.predicate).outcome with m | (_ | _)
    · exact hfront.trans (List.sublist_append_left _ _)
    · exact hfront.append (firstMatch_reads_sublist facts rules)
    · exact hfront.trans (List.sublist_append_left _ _)

theorem fact?_ne_none_of_mem_leavesOf_rules {rules : List Rule} {leaf : Predicate}
    (h : leaf ∈ Rule.leavesOf rules) : leaf.fact? ≠ none := by
  obtain ⟨rule, -, hleaf⟩ := List.mem_flatMap.1 h
  exact Predicate.fact?_ne_none_of_mem_leaves hleaf

/-- Leaves ask for one fact each.  The hypothesis keeps nodes out, for which there is no fact to ask
for. -/
theorem map_some_facts : ∀ {leaves : List Predicate}, (∀ leaf ∈ leaves, leaf.fact? ≠ none) →
    (leaves.filterMap Predicate.fact?).map some = leaves.map Predicate.fact?
  | [], _ => rfl
  | leaf :: leaves, h => by
    obtain ⟨fact, hfact⟩ := Option.ne_none_iff_exists'.1 (h leaf List.mem_cons_self)
    have ih := map_some_facts fun l hl => h l (List.mem_cons_of_mem leaf hl)
    rw [List.filterMap_cons_some hfact, List.map_cons, List.map_cons, hfact, ih]

/-- Reads in the order of leaves are those of some of the leaves, one for each.  The sublist of
facts is carried back to a sublist of the leaves themselves, so that a repeated fact is told apart
by its leaf. -/
theorem exists_visited {reads : List Fact} {leaves : List Predicate}
    (hleaves : ∀ leaf ∈ leaves, leaf.fact? ≠ none)
    (h : reads.Sublist (leaves.filterMap Predicate.fact?)) :
    ∃ visited : List Predicate, visited.Sublist leaves ∧
      reads.map some = visited.map Predicate.fact? := by
  obtain ⟨visited, hvisited, rfl⟩ := List.sublist_filterMap_iff.1 h
  exact ⟨visited, hvisited, map_some_facts fun leaf hleaf => hleaves leaf (hvisited.subset hleaf)⟩

/-- **What was read determines the result.**  Facts that agree with all that an evaluation read make
for the same outcome, an answer or the same error, and for the same reads; these are those of leaves
of the tree, one for each leaf, in the order of the text.  The same holds of the search through a
list of rules; the leaves are then those of rules up to the first that holds or fails, and nothing
depends on the rules behind it. -/
theorem reads_determine :
    (∀ (facts facts' : Facts) (p : Predicate),
      (∀ fact ∈ (evaluate facts p).reads, facts.Agree facts' fact) →
        (evaluate facts' p).outcome = (evaluate facts p).outcome ∧
        (evaluate facts' p).reads = (evaluate facts p).reads) ∧
    (∀ (facts : Facts) (p : Predicate), ∃ visited : List Predicate, visited.Sublist p.leaves ∧
      (evaluate facts p).reads.map some = visited.map Predicate.fact?) ∧
    (∀ (facts facts' : Facts) (rules : List Rule),
      (∀ fact ∈ (firstMatch facts rules).reads, facts.Agree facts' fact) →
        (firstMatch facts' rules).outcome = (firstMatch facts rules).outcome ∧
        (firstMatch facts' rules).reads = (firstMatch facts rules).reads) ∧
    (∀ (facts : Facts) (rules : List Rule), ∃ visited : List Predicate,
      visited.Sublist (Rule.leavesOf rules) ∧
      (firstMatch facts rules).reads.map some = visited.map Predicate.fact?) ∧
    (∀ (facts : Facts) (before after : List Rule) (rule : Rule),
      (evaluate facts rule.predicate).outcome ≠ .ok false →
        (∃ visited : List Predicate, visited.Sublist (Rule.leavesOf (before ++ [rule])) ∧
          (firstMatch facts (before ++ rule :: after)).reads.map some =
            visited.map Predicate.fact?) ∧
        ∀ after', firstMatch facts (before ++ rule :: after') =
          firstMatch facts (before ++ rule :: after)) := by
  have hrules : ∀ (facts : Facts) (rules : List Rule), ∃ visited : List Predicate,
      visited.Sublist (Rule.leavesOf rules) ∧
      (firstMatch facts rules).reads.map some = visited.map Predicate.fact? :=
    fun facts rules => exists_visited (fun _ => fact?_ne_none_of_mem_leavesOf_rules)
      (firstMatch_reads_sublist facts rules)
  refine ⟨?_, ?_, ?_, hrules, ?_⟩
  · intro facts facts' p h
    rw [evaluate_of_agree p h]
    exact ⟨rfl, rfl⟩
  · intro facts p
    exact exists_visited (fun _ => Predicate.fact?_ne_none_of_mem_leaves) (reads_sublist facts p)
  · intro facts facts' rules h
    rw [firstMatch_of_agree rules h]
    exact ⟨rfl, rfl⟩
  · intro facts before after rule h
    refine ⟨?_, ?_⟩
    · rw [firstMatch_stops h]
      exact hrules facts (before ++ [rule])
    · intro after'
      rw [firstMatch_stops h after', firstMatch_stops h after]

/-- Two clients on their first visit, one of them a stranger to `10.0.0.0/8`.  The hit count decides
in front of the block, in the first rule and again in the second, so nobody asks for the address,
and the stranger is let in like the other one, although the block alone would be an error. -/
theorem reads_determine_unasked :
    ∃ (tens : Block) (guest stranger : Facts) (p : Predicate) (rules : List Rule),
      tens.base = .v4 0x0A000000#32 ∧ tens.length = 8 ∧
      guest.address = .v4 0x0A000001#32 ∧
      stranger.address = .v6 0x20010DB8000000000000000000000001#128 ∧
      p = .any [.all [.hitsAbove 1, .addressIn tens], .fieldIs (.header "x") "y"] ∧
      rules = [⟨1, p, "reject"⟩, ⟨2, .hitsAbove 0, "pass"⟩, ⟨3, .addressIn tens, "log"⟩] ∧
      (evaluate stranger (.addressIn tens)).outcome = .error ⟨tens, stranger.address⟩ ∧
      (evaluate guest p).outcome = .ok false ∧ (evaluate guest p).reads = [.hits, .header "x"] ∧
      (evaluate stranger p).outcome = .ok false ∧
      (evaluate stranger p).reads = [.hits, .header "x"] ∧
      (firstMatch guest rules).outcome = .ok (some ⟨2, .hitsAbove 0, "pass"⟩) ∧
      (firstMatch stranger rules).outcome = .ok (some ⟨2, .hitsAbove 0, "pass"⟩) ∧
      (firstMatch stranger rules).reads = [.hits, .header "x", .hits] ∧
      firstMatch guest (rules.take 2) = firstMatch guest rules := by
  obtain ⟨htree, -, hlist, -, hbehind⟩ := reads_determine
  let tens : Block := .v4 ⟨0x0A000000#32, 8, by decide, by decide⟩
  let guest : Facts := .ofRequest (.ofAddress (.v4 0x0A000001#32)) 1 {}
  let stranger : Facts :=
    .ofRequest (.ofAddress (.v6 0x20010DB8000000000000000000000001#128)) 1 {}
  let p : Predicate := .any [.all [.hitsAbove 1, .addressIn tens], .fieldIs (.header "x") "y"]
  let second : Rule := ⟨2, .hitsAbove 0, "pass"⟩
  let third : Rule := ⟨3, .addressIn tens, "log"⟩
  have hp : (evaluate guest p).outcome = .ok false ∧
      (evaluate guest p).reads = [.hits, .header "x"] := ⟨rfl, rfl⟩
  have hrules : (firstMatch guest [⟨1, p, "reject"⟩, second, third]).outcome = .ok (some second) ∧
      (firstMatch guest [⟨1, p, "reject"⟩, second, third]).reads = [.hits, .header "x", .hits] :=
    ⟨rfl, rfl⟩
  have hhits : guest.Agree stranger .hits := rfl
  have hheader : guest.Agree stranger (.header "x") := rfl
  have hsame := htree guest stranger p (by rw [hp.2]; simp [hhits, hheader])
  have hfound := hlist guest stranger [⟨1, p, "reject"⟩, second, third]
    (by rw [hrules.2]; simp [hhits, hheader])
  refine ⟨tens, guest, stranger, p, [⟨1, p, "reject"⟩, second, third], rfl, rfl, rfl, rfl, rfl, rfl,
    rfl, hp.1, hp.2, hsame.1.trans hp.1, hsame.2.trans hp.2, hrules.1, hfound.1.trans hrules.1,
    hfound.2.trans hrules.2, ?_⟩
  have hdecides : (evaluate guest second.predicate).outcome ≠ .ok false := by
    change (Except.ok true : Except FamilyMismatch Bool) ≠ .ok false
    simp
  exact (hbehind guest [⟨1, p, "reject"⟩] [third] second hdecides).2 []

end Turnstile
