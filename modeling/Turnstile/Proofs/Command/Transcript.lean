/-
# One line for each request

A run of `eval` prints its answers one after the other, each with a line feed behind it.  Here is
what whoever reads the output can rely on, whatever time passes between two lines of the input and
whenever the table is swept meanwhile.

**Which answers.**  There is one for every line of the input that is not blank, in order, and it is
what the line calls for with the gate behind the lines before it (`Gate.Classifies`,
`Gate.answersAmid_get?`).

**Which lines.**  Splitting the output at line feeds gives the answers back unless an answer holds
a line feed itself (`splitOn_transcript_iff`).  Of all that can become an answer, the fixed texts
hold none, and neither does the action of a rule that was parsed, since it is a word.  What is left
is the default action, of which the configuration asks only that it is not blank
(`Gate.eq_default_of_lineFeed`).  A default action of two lines is accepted, and then a request
that no rule takes gets two lines (`eval_two_lines`).
-/
import Turnstile.Command.Outcome
import Turnstile.Proofs.Decision.FirstMatch
import Turnstile.Proofs.Decision.Metering
import Turnstile.Proofs.Rule.RoundTrip
import Turnstile.Proofs.RuleSet.Compilation
import Turnstile.Proofs.Text.Split

namespace Turnstile

open Turnstile.Text (allBlank splitOn_intercalate_iff)

/-! ## 1. Lines of the output -/

/-- The output joins the answers by line feeds, with nothing behind the last one.  In this form it
is taken apart again by splitting. -/
theorem toList_transcript (answers : List Answer) :
    (transcript answers).toList =
      ['\n'].intercalate (answers.map (·.text.toList) ++ [[]]) := by
  have hlines : (transcript answers).toList = answers.flatMap fun a => a.text.toList ++ ['\n'] := by
    simp [transcript, String.toList_join, List.flatMap_map]
  rw [hlines]
  clear hlines
  induction answers with
  | nil => rfl
  | cons a answers ih =>
    obtain ⟨next, rest, hrest⟩ :=
      List.exists_cons_of_ne_nil (List.concat_ne_nil [] (answers.map (·.text.toList)))
    rw [List.flatMap_cons, ih, List.map_cons, List.cons_append, hrest, List.intercalate_cons_cons]

/-- **The output splits into the answers** exactly if none of them holds a line feed.  Behind the
last line feed nothing is left. -/
theorem splitOn_transcript_iff (answers : List Answer) :
    (transcript answers).toList.splitOn '\n' = answers.map (·.text.toList) ++ [[]] ↔
      ∀ a ∈ answers, '\n' ∉ a.text.toList := by
  rw [toList_transcript, splitOn_intercalate_iff (List.concat_ne_nil [] _)]
  simp [or_imp, forall_and]

/-! ## 2. What a line calls for -/

/-- An action is the default or that of a rule, so what holds of both holds of every answer that is
an action. -/
theorem FirstMatch.action_cases {default : String} {facts : Facts} {rules : List Rule}
    {d : Gate.Decision} (h : FirstMatch default facts rules (.ok d)) :
    d.action = default ∨ ∃ r ∈ rules, d.action = r.action := by
  cases h with
  | holds _ _ => exact .inr ⟨_, List.mem_append_right _ List.mem_cons_self, rfl⟩
  | default _ => exact .inl rfl

namespace Snapshot

/-- A snapshot is a request unless its address is none.  Its other fields are taken as they are. -/
theorem request?_eq_none_iff {s : Snapshot} :
    s.request? = none ↔ Address.ofString? s.address = none := by
  unfold request?
  rcases Address.ofString? s.address with _ | a
  · exact iff_of_true rfl rfl
  · simp

end Snapshot

/-- Time that passes, and sweeps on time. -/
def Call.Background : Call → Prop
  | .elapse _ | .sweepOnTime _ => True
  | _ => False

namespace Gate

/-- **What a line calls for.** -/
inductive Classifies (g : Gate) (line : String) : Answer → Prop
  | invalidRequest (hline : Snapshot.ofLine? line = none) : Classifies g line .invalidRequest
  | invalidAddress {s : Snapshot} (hline : Snapshot.ofLine? line = some s)
    (haddress : Address.ofString? s.address = none) : Classifies g line .invalidAddress
  | evaluationError {s : Snapshot} {r : Request} {e : EvaluationError}
    (hline : Snapshot.ofLine? line = some s) (hrequest : s.request? = some r)
    (hmatch : FirstMatch g.defaultAction (g.facts r) g.active.rules (.error e)) :
    Classifies g line .evaluationError
  | action {s : Snapshot} {r : Request} {d : Decision} (hline : Snapshot.ofLine? line = some s)
    (hrequest : s.request? = some r)
    (hmatch : FirstMatch g.defaultAction (g.facts r) g.active.rules (.ok d)) :
    Classifies g line (.action d.action)

theorem answer_classifies (g : Gate) (line : String) : g.Classifies line (g.answer line).1 := by
  unfold answer
  rcases hline : Snapshot.ofLine? line with _ | s
  · exact .invalidRequest hline
  · dsimp only
    rcases hrequest : s.request? with _ | r
    · exact .invalidAddress hline (Snapshot.request?_eq_none_iff.1 hrequest)
    · have hmatch := (firstMatch_iff _ _ _ _).2 (decide_fst g g.active.rules r).symm
      dsimp only
      unfold answerRequest action
      rcases hd : g.decide g.active.rules r with ⟨e | d, g'⟩
      · rw [hd] at hmatch
        exact .evaluationError hline hrequest hmatch
      · rw [hd] at hmatch
        exact .action hline hrequest hmatch

/-- Behind an answer to a request the gate is the one behind the decision, since the answer only
words it. -/
theorem answerRequest_snd (g : Gate) (r : Request) :
    (g.answerRequest r).2 = (g.decide g.active.rules r).2 := by
  unfold answerRequest action
  rcases g.decide g.active.rules r with ⟨e | d, g'⟩
  · rfl
  · rfl

/-- Gates that decide by the same rules and the same default action. -/
structure SameRules (g' g : Gate) : Prop where
  active : g'.active = g.active
  defaultAction : g'.defaultAction = g.defaultAction

namespace SameRules

theorem trans {g₁ g₂ g₃ : Gate} (h₁ : g₁.SameRules g₂) (h₂ : g₂.SameRules g₃) :
    g₁.SameRules g₃ :=
  ⟨h₁.1.trans h₂.1, h₁.2.trans h₂.2⟩

theorem answer (g : Gate) (line : String) : (g.answer line).2.SameRules g := by
  unfold Gate.answer
  split
  · exact ⟨rfl, rfl⟩
  · split
    · exact ⟨rfl, rfl⟩
    · next r _ =>
      rw [answerRequest_snd, (g.decides g.active.rules r).rest]
      exact ⟨rfl, rfl⟩

theorem run : ∀ {calls : List Call} (g : Gate), (∀ c ∈ calls, c.Background) →
    (g.run calls).2.SameRules g
  | [], _, _ => ⟨rfl, rfl⟩
  | c :: calls, g, h => by
    have hrest := run (g.perform c).2 fun c' hc' => h c' (List.mem_cons_of_mem c hc')
    rw [run_cons]
    refine hrest.trans ?_
    cases c with
    | elapse _ | sweepOnTime _ => exact ⟨rfl, rfl⟩
    | _ => exact (h _ List.mem_cons_self).elim

end SameRules

/-! ## 3. Sessions -/

/-- Whether a line of a session gets an answer. -/
def asks (entry : List Call × String) : Bool :=
  !allBlank entry.2

/-- The gate behind an entry of a session. -/
def pass (g : Gate) (entry : List Call × String) : Gate :=
  if asks entry then ((g.run entry.1).2.answer entry.2).2 else (g.run entry.1).2

/-- The gate behind a part of a session. -/
def behind (g : Gate) (session : List (List Call × String)) : Gate :=
  session.foldl pass g

/-- The answers to lines, each with what happens before it. -/
def answersAmid (g : Gate) : List (List Call × String) → List Answer
  | [] => []
  | entry :: session =>
    let answers := answersAmid (g.pass entry) session
    if asks entry then ((g.run entry.1).2.answer entry.2).1 :: answers else answers

/-- If nothing happens between lines, the answers amid a session are those of a run.  Sessions are
there to say what may happen between lines. -/
theorem answerAll_fst : ∀ (lines : List String) (g : Gate),
    (g.answerAll lines).1 = g.answersAmid (lines.map ([], ·))
  | [], _ => rfl
  | line :: lines, g => by
    rw [answerAll, List.map_cons, answersAmid, pass, asks]
    by_cases hline : allBlank line
    · simp only [hline, if_true, Bool.not_true, Bool.false_eq_true, if_false]
      exact answerAll_fst lines g
    · simp only [hline, Bool.not_false, if_true, Bool.false_eq_true, if_false]
      exact congrArg _ (answerAll_fst lines _)

theorem answerAll_snd : ∀ (lines : List String) (g : Gate),
    (g.answerAll lines).2 = g.behind (lines.map ([], ·))
  | [], _ => rfl
  | line :: lines, g => by
    rw [answerAll, List.map_cons, behind, List.foldl_cons, pass, asks]
    by_cases hline : allBlank line
    · simp only [hline, if_true, Bool.not_true, Bool.false_eq_true, if_false]
      exact answerAll_snd lines g
    · simp only [hline, Bool.not_false, if_true, Bool.false_eq_true, if_false]
      exact answerAll_snd lines _

variable {entry : List Call × String}

theorem answersAmid_asks (g : Gate) (h : asks entry = true) (session : List (List Call × String)) :
    g.answersAmid (entry :: session) =
      ((g.run entry.1).2.answer entry.2).1 :: (g.pass entry).answersAmid session := by
  rw [answersAmid, if_pos h]

theorem answersAmid_blank (g : Gate) (h : asks entry = false)
    (session : List (List Call × String)) :
    g.answersAmid (entry :: session) = (g.pass entry).answersAmid session := by
  rw [answersAmid, h]
  rfl

/-- **One answer for each line that is not blank**, so that answers can be matched with lines by
counting. -/
theorem answersAmid_length : ∀ (session : List (List Call × String)) (g : Gate),
    (g.answersAmid session).length = (session.filter asks).length
  | [], _ => rfl
  | entry :: session, g => by
    have ih := answersAmid_length session (g.pass entry)
    cases h : asks entry with
    | true => rw [g.answersAmid_asks h, List.filter_cons_of_pos h, List.length_cons,
        List.length_cons, ih]
    | false => rw [g.answersAmid_blank h, List.filter_cons_of_neg (by simp [h]), ih]

theorem answersAmid_append : ∀ (before session : List (List Call × String)) (g : Gate),
    g.answersAmid (before ++ session) =
      g.answersAmid before ++ (g.behind before).answersAmid session
  | [], _, _ => rfl
  | entry :: before, session, g => by
    have ih := answersAmid_append before session (g.pass entry)
    cases h : asks entry with
    | true => rw [List.cons_append, g.answersAmid_asks h, g.answersAmid_asks h, ih]; rfl
    | false => rw [List.cons_append, g.answersAmid_blank h, g.answersAmid_blank h, ih]; rfl

/-- **In order**: each line gets the answer of the gate behind what comes before it, in the place
that it has among the lines that are not blank. -/
theorem answersAmid_get? (g : Gate) (before : List (List Call × String)) (h : asks entry = true)
    (after : List (List Call × String)) :
    (g.answersAmid (before ++ entry :: after))[(before.filter asks).length]? =
      some (((g.behind before).run entry.1).2.answer entry.2).1 := by
  rw [answersAmid_append, answersAmid_asks _ h, ← answersAmid_length before g,
    List.getElem?_append_right (Nat.le_refl _), Nat.sub_self]
  rfl

theorem pass_sameRules (g : Gate) (h : ∀ c ∈ entry.1, c.Background) :
    (g.pass entry).SameRules g := by
  have hrun := SameRules.run g h
  unfold pass
  split
  · exact (SameRules.answer _ _).trans hrun
  · exact hrun

theorem behind_sameRules : ∀ (session : List (List Call × String)) (g : Gate),
    (∀ entry ∈ session, ∀ c ∈ entry.1, c.Background) → (g.behind session).SameRules g
  | [], _, _ => ⟨rfl, rfl⟩
  | entry :: session, g, h =>
    (behind_sameRules session (g.pass entry) fun e he => h e (List.mem_cons_of_mem entry he)).trans
      (g.pass_sameRules (h entry List.mem_cons_self))

/-! ## 4. Line feeds -/

/-- The active rules answer with words. -/
def Worded (g : Gate) : Prop :=
  ∀ r ∈ g.active.rules, IsWord r.action

theorem SameRules.worded {g' g : Gate} (h : g'.SameRules g) (hg : g.Worded) : g'.Worded := by
  unfold Worded
  rw [h.active]
  exact hg

/-- Only the default action brings a line feed into an answer: an action of a rule is a word of the
rule text, and all other answers are fixed. -/
theorem eq_default_of_lineFeed {g : Gate} (hg : g.Worded) {line : String}
    (h : '\n' ∈ (g.answer line).1.text.toList) : (g.answer line).1 = .action g.defaultAction := by
  have hanswer := g.answer_classifies line
  generalize (g.answer line).1 = a at h hanswer
  cases hanswer with
  | invalidRequest _ | invalidAddress _ _ | evaluationError _ _ _ => exact absurd h (by decide)
  | action _ _ hmatch =>
    rcases hmatch.action_cases with hdefault | ⟨rule, hrule, haction⟩
    · rw [hdefault]
    · -- the characters of a word are word characters, and a line feed is none
      rw [Answer.text, haction] at h
      exact absurd ((hg rule hrule).2.2 _ h) (by decide)

/-- What the answers of a session owe to the default action: neither time nor sweeps change it, and
the rules stay the same. -/
theorem answersAmid_default : ∀ (session : List (List Call × String)) {g : Gate}, g.Worded →
    (∀ entry ∈ session, ∀ c ∈ entry.1, c.Background) →
    ∀ a ∈ g.answersAmid session, '\n' ∈ a.text.toList → a = .action g.defaultAction
  | [], _, _, _, a, ha, _ => absurd ha List.not_mem_nil
  | entry :: session, g, hg, h, a, ha, hfeed => by
    have hpass := g.pass_sameRules (h entry List.mem_cons_self)
    have ih := answersAmid_default session (hpass.worded hg)
      (fun e he => h e (List.mem_cons_of_mem entry he)) a
    rw [hpass.defaultAction] at ih
    cases hasks : asks entry with
    | true =>
      have hrun := SameRules.run g (h entry List.mem_cons_self)
      rw [g.answersAmid_asks hasks] at ha
      rcases List.mem_cons.1 ha with rfl | ha
      · rw [eq_default_of_lineFeed (hrun.worded hg) hfeed, hrun.defaultAction]
      · exact ih ha hfeed
    | false =>
      rw [g.answersAmid_blank hasks] at ha
      exact ih ha hfeed

/-- The gate that a configuration makes is one whose rules were made active, so what is known of
reloads holds of it. -/
theorem reload_of_ofConfig {c : Config} {metrics : Option Metrics} {g : Gate}
    (h : ofConfig c metrics = .ok g) : (ofSettings c metrics).reload c.rules = (.ok (), g) := by
  unfold ofConfig at h
  rcases hreload : (ofSettings c metrics).reload c.rules with ⟨e | ⟨⟩, g'⟩
  · rw [hreload] at h
    cases h
  · rw [hreload] at h
    rw [Except.ok.inj h]

/-- **A configuration whose rules compile** gives a gate with these rules and its default action. -/
theorem ofConfig_ok {c : Config} {metrics : Option Metrics} {g : Gate}
    (h : ofConfig c metrics = .ok g) :
    Compiles c.lists c.rules g.active.rules ∧ g.defaultAction = c.defaultAction := by
  have hagrees := compile_agrees (ofSettings c metrics) c.rules
  unfold ofConfig reload at h
  rcases hcompile : (ofSettings c metrics).compile c.rules with ⟨e | set, g'⟩
  · rw [hcompile] at h
    cases h
  · rw [hcompile] at h hagrees
    obtain rfl := Except.ok.inj h
    exact ⟨compiles_of_compile (congrArg Prod.fst hcompile), hagrees.defaultAction⟩

/-- Rules that were compiled answer with words, since the action of a rule is the word behind its
arrow. -/
theorem worded_of_compiles {lists : AccessLists} {configs : List RuleSource} {g : Gate}
    (h : Compiles lists configs g.active.rules) : g.Worded := by
  intro r hr
  obtain ⟨c, -, hparse⟩ := h.exists_source hr
  exact (printable_of_parse hparse).2.1.2

end Gate

/-! ## 5. Output -/

theorem fromUTF8?_toUTF8 (s : String) : String.fromUTF8? s.toUTF8 = some s :=
  dif_pos s.isValidUTF8

namespace Gate

/-- A gate without metrics counts nothing, so there is nothing to print behind the answers. -/
theorem answer_silent {g : Gate} (h : g.metrics = none) (line : String) :
    (g.answer line).2.metrics = none := by
  unfold answer
  split
  · exact h
  · split
    · exact h
    · next r _ => rw [answerRequest_snd, decide_metrics, h, Option.map_none]

theorem answerAll_silent : ∀ (lines : List String) {g : Gate}, g.metrics = none →
    (g.answerAll lines).2.metrics = none
  | [], _, h => h
  | line :: lines, g, h => by
    rw [answerAll]
    split
    · exact answerAll_silent lines h
    · exact answerAll_silent lines (answer_silent h line)

theorem ofConfig_silent {c : Config} {g : Gate} (h : ofConfig c none = .ok g) :
    g.metrics = none := by
  have hkeeps := reload_keeps (P := fun g => g.metrics = none)
    (fun g rule text hg => by rw [newRule_metrics, hg, Option.map_none])
    (fun _ _ hg => hg) (g := ofSettings c none) rfl c.rules
  rwa [reload_of_ofConfig h] at hkeeps

end Gate

/-- **A run answers every line**, once it has its gate, and then prints the metrics if they are
wanted. -/
theorem Command.run_eval_report {c : Config} {g : Gate} {config : String} {wanted : Bool}
    (hread : Config.read config = .ok c)
    (hgate : Gate.ofConfig c (if wanted then some {} else none) = .ok g)
    (path : Option String) (input : String) :
    (Command.eval path wanted).run (some config.toUTF8) (some input.toUTF8) =
      ⟨.success, transcript (g.answersAmid ((Text.lines input).map ([], ·))) ++
        (g.behind ((Text.lines input).map ([], ·))).report⟩ := by
  have hmetrics : (Command.eval path wanted).metrics = if wanted then some {} else none := by
    cases wanted with
    | false => rfl
    | true => rfl
  have hmade : (Command.eval path wanted).gate (some config.toUTF8) = .ok g := by
    rw [Command.gate, Config.load, fromUTF8?_toUTF8, hmetrics]
    dsimp only
    rw [hread]
    exact hgate
  rw [Command.run, hmade]
  change g.evaluate input.toUTF8 = _
  rw [Gate.evaluate, fromUTF8?_toUTF8, ← Gate.answerAll_fst, ← Gate.answerAll_snd]
  rfl

/-- Without metrics it prints nothing else, and ends with success whatever the lines are. -/
theorem Command.run_eval {c : Config} {g : Gate} {config : String}
    (hread : Config.read config = .ok c) (hgate : Gate.ofConfig c none = .ok g)
    (path : Option String) (input : String) :
    (Command.eval path false).run (some config.toUTF8) (some input.toUTF8) =
      ⟨.success, transcript (g.answersAmid ((Text.lines input).map ([], ·)))⟩ := by
  have hreport : (g.behind ((Text.lines input).map ([], ·))).report = "" := by
    rw [← Gate.answerAll_snd, Gate.report, Gate.answerAll_silent _ (Gate.ofConfig_silent hgate)]
  have hunwanted : Gate.ofConfig c (if false then some {} else none) = .ok g := hgate
  rw [Command.run_eval_report hread hunwanted, hreport, String.append_empty]

/-- **Each request gets one line, unless the default action has more.**  With any configuration that
is accepted and whose rules compile, a run prints the answers to its input and no more; whatever
time passes and whatever is swept between the lines, there is one answer for each line that is not
blank, in order, and it is what the line calls for by the configured rules and default action.  The
output splits into the answers at its line feeds exactly if the default action holds none or is no
answer. -/
theorem eval_splits_iff {c : Config} {g : Gate} {config : String}
    (hread : Config.read config = .ok c) (hgate : Gate.ofConfig c none = .ok g) :
    Compiles c.lists c.rules g.active.rules ∧ g.defaultAction = c.defaultAction ∧
    ∀ (path : Option String) (input : String),
      (Command.eval path false).run (some config.toUTF8) (some input.toUTF8) =
        ⟨.success, transcript (g.answersAmid ((Text.lines input).map ([], ·)))⟩ ∧
      ∀ session : List (List Call × String), session.map Prod.snd = Text.lines input →
        (∀ entry ∈ session, ∀ call ∈ entry.1, call.Background) →
        (g.answersAmid session).length =
          ((Text.lines input).filter fun line => !allBlank line).length ∧
        (∀ before calls line after, session = before ++ (calls, line) :: after →
          allBlank line = false →
          ∃ (a : Answer) (g' : Gate), g' = ((g.behind before).run calls).2 ∧ g'.SameRules g ∧
            (g.answersAmid session)[(before.filter Gate.asks).length]? = some a ∧
            g'.Classifies line a) ∧
        ((transcript (g.answersAmid session)).toList.splitOn '\n' =
            (g.answersAmid session).map (·.text.toList) ++ [[]] ↔
          ('\n' ∉ c.defaultAction.toList ∨
            Answer.action c.defaultAction ∉ g.answersAmid session)) := by
  obtain ⟨hcompiles, hdefault⟩ := Gate.ofConfig_ok hgate
  refine ⟨hcompiles, hdefault, fun path input => ⟨Command.run_eval hread hgate path input, ?_⟩⟩
  intro session hlines hcalls
  refine ⟨?_, ?_, ?_⟩
  · rw [Gate.answersAmid_length, ← hlines, List.filter_map, List.length_map]
    rfl
  · rintro before calls line after rfl hline
    have hasks : Gate.asks (calls, line) = true := by rw [Gate.asks, hline]; rfl
    refine ⟨_, _, rfl, ?_, g.answersAmid_get? before hasks after, Gate.answer_classifies _ _⟩
    refine (Gate.SameRules.run _ ?_).trans (Gate.behind_sameRules before g ?_)
    · exact hcalls (calls, line) (by simp)
    · exact fun entry hentry => hcalls entry (List.mem_append_left _ hentry)
  · rw [splitOn_transcript_iff]
    constructor
    · intro h
      by_cases hanswer : Answer.action c.defaultAction ∈ g.answersAmid session
      · exact .inl (h _ hanswer)
      · exact .inr hanswer
    · intro h a ha hfeed
      have hlabel := Gate.answersAmid_default session (Gate.worded_of_compiles hcompiles) hcalls a
        ha hfeed
      rw [hdefault] at hlabel
      subst hlabel
      rcases h with h | h
      · exact h hfeed
      · exact h ha

/-- A default action of two lines is accepted: it is not blank, and nothing else is asked of it. -/
theorem Config.read_lineFeed :
    Config.read "default_action = \"a\\nb\"" = .ok { defaultAction := "a\nb" } := by
  cbv

/-- With such a default action the output may still split.  Nobody gets it here, whatever is swept
meanwhile: the first line is no snapshot, the second is blank, and the third has no address. -/
theorem eval_splits_iff_unanswered :
    ∃ c g, Config.read "default_action = \"a\\nb\"" = .ok c ∧ Gate.ofConfig c none = .ok g ∧
      '\n' ∈ c.defaultAction.toList ∧
      (transcript (g.answersAmid [([], "\x7b"), ([.elapse 3600000], ""),
        ([.sweepOnTime ⟨0⟩], "[\"x\"]")])).toList.splitOn '\n' =
          ["invalid-request".toList, "invalid-address".toList, []] := by
  have hread := Config.read_lineFeed
  obtain ⟨g, hgate⟩ : ∃ g, Gate.ofConfig { defaultAction := "a\nb" } none = .ok g := ⟨_, rfl⟩
  refine ⟨_, g, hread, hgate, by decide, ?_⟩
  have hanswers : g.answersAmid [([], "\x7b"), ([.elapse 3600000], ""),
      ([.sweepOnTime ⟨0⟩], "[\"x\"]")] = [.invalidRequest, .invalidAddress] := by
    have hfirst : Snapshot.ofLine? "\x7b" = none := by cbv
    have hthird : Snapshot.ofLine? "[\"x\"]" = some { address := "x" } := by cbv
    have haddress : ({ address := "x" } : Snapshot).request? = none := by cbv
    rw [g.answersAmid_asks rfl, Gate.answersAmid_blank _ rfl, Gate.answersAmid_asks _ rfl]
    simp only [Gate.answer, hfirst, hthird, haddress, Gate.answersAmid]
  obtain ⟨-, -, hinput⟩ := eval_splits_iff hread hgate
  have hinput := (hinput none "\x7b\n\n[\"x\"]\n").2 [([], "\x7b"), ([.elapse 3600000], ""),
    ([.sweepOnTime ⟨0⟩], "[\"x\"]")] rfl (by simp [Call.Background])
  rw [hanswers] at hinput ⊢
  exact hinput.2.2.2 (.inr (by decide))

/-- **Such a default action makes two lines of one answer**, though one line of input is to be
answered by one line of output. -/
theorem eval_two_lines :
    Config.read "default_action = \"a\\nb\"" = .ok { defaultAction := "a\nb" } ∧
    Text.lines "\x7b\"address\": \"10.0.0.1\"\x7d\n" = ["\x7b\"address\": \"10.0.0.1\"\x7d"] ∧
    (Command.eval none false).run (some "default_action = \"a\\nb\"".toUTF8)
      (some "\x7b\"address\": \"10.0.0.1\"\x7d\n".toUTF8) = ⟨.success, "a\nb\n"⟩ ∧
    "a\nb\n".toList.splitOn '\n' = [['a'], ['b'], []] := by
  have hread := Config.read_lineFeed
  have hlines : Text.lines "\x7b\"address\": \"10.0.0.1\"\x7d\n" =
      ["\x7b\"address\": \"10.0.0.1\"\x7d"] := rfl
  refine ⟨hread, hlines, ?_, by decide⟩
  have hline : Snapshot.ofLine? "\x7b\"address\": \"10.0.0.1\"\x7d" =
      some { address := "10.0.0.1" } := by
    cbv
  have haddress : Address.ofString? "10.0.0.1" = some (.v4 0x0a000001) :=
    Address.ofString?_text (.v4 0x0a000001)
  have hrequest : ({ address := "10.0.0.1" } : Snapshot).request? =
      some (.ofAddress (.v4 0x0a000001)) := by
    rw [Snapshot.request?, haddress]
    rfl
  rw [Command.run_eval hread rfl, hlines, List.map_singleton, Gate.answersAmid_asks _ rfl]
  simp only [Gate.answer, hline, hrequest]
  rfl

end Turnstile
