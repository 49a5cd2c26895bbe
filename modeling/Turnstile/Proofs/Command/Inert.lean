/-
# Lines that hold no request

An input of `eval` may hold lines that no gate can do anything with: blank ones, ones that are no
snapshot, and ones whose address is none (`Malformed`).  A fourth kind of line is refused too, that
of a request for which a rule cannot be evaluated.  The two are told apart here.

**A malformed line is inert.**  It leaves the gate as it is.  So a session may be cut down to its
other lines (`Gate.trim`, which keeps what happens between them): each gets the same answer, and the
gate behind the session is the same, with its hit table and its metrics (`behind_trim`,
`answersAmid_trim_get?`).

**A request that fails is none of these.**  It is a hit of its client.  As long as nothing is swept,
the hits of a client are its lines, whatever they were answered (`behind_hits`).
-/
import Turnstile.Proofs.Command.Transcript
import Turnstile.Proofs.Decision.Conservation

namespace Turnstile

open Turnstile.Text (allBlank)

/-! ## 1. Lines and requests -/

/-- Lines that hold no request. -/
inductive Malformed (line : String) : Prop
  | blank (hline : allBlank line = true)
  | noSnapshot (hline : Snapshot.ofLine? line = none)
  | noAddress {s : Snapshot} (hline : Snapshot.ofLine? line = some s)
    (haddress : Address.ofString? s.address = none)

/-- The request on a line, if it holds one. -/
def requestOn? (line : String) : Option Request :=
  if allBlank line then none else (Snapshot.ofLine? line).bind Snapshot.request?

theorem requestOn?_eq_none_iff {line : String} : requestOn? line = none ↔ Malformed line := by
  unfold requestOn?
  constructor
  · intro h
    split at h
    · next hblank => exact .blank hblank
    · rcases hline : Snapshot.ofLine? line with _ | s
      · exact .noSnapshot hline
      · rw [hline] at h
        exact .noAddress hline (Snapshot.request?_eq_none_iff.1 h)
  · rintro (hblank | hline | ⟨hline, haddress⟩)
    · exact if_pos hblank
    · rw [hline]
      exact ite_self none
    · rw [hline, Option.bind_some, Snapshot.request?_eq_none_iff.2 haddress]
      exact ite_self none

instance : DecidablePred Malformed := fun line =>
  decidable_of_iff ((requestOn? line).isNone = true) <| by
    rw [Option.isNone_iff_eq_none, requestOn?_eq_none_iff]

theorem exists_request {line : String} (h : ¬Malformed line) : ∃ r, requestOn? line = some r := by
  rw [← requestOn?_eq_none_iff] at h
  exact Option.ne_none_iff_exists'.1 h

theorem not_malformed {line : String} {r : Request} (h : requestOn? line = some r) :
    ¬Malformed line := by
  rw [← requestOn?_eq_none_iff, h]
  exact Option.some_ne_none r

/-- A line that holds a request is not blank, so of the lines that are left all get an answer. -/
theorem allBlank_eq_false {line : String} (h : ¬Malformed line) : allBlank line = false :=
  Bool.eq_false_iff.2 fun hblank => h (.blank hblank)

/-- Whether an answer is one to a request. -/
def Answer.toRequest : Answer → Bool
  | action _ | evaluationError => true
  | invalidAddress | invalidRequest => false

namespace Gate

variable (g : Gate) {line : String}

theorem answerRequest_toRequest (r : Request) : (g.answerRequest r).1.toRequest = true := by
  unfold answerRequest
  rcases g.action g.active.rules r with ⟨e | label, g'⟩
  · rfl
  · rfl

theorem answer_of_request {r : Request} (h : requestOn? line = some r) :
    g.answer line = g.answerRequest r := by
  rw [requestOn?, if_neg (by rw [allBlank_eq_false (not_malformed h)]; decide),
    Option.bind_eq_some_iff] at h
  obtain ⟨s, hline, hrequest⟩ := h
  simp only [answer, hline, hrequest]

/-- **A malformed line leaves the gate as it is**, if it is looked at at all.  Its answer is none to
a request: no hit is counted, and no metric. -/
theorem answer_of_malformed (h : Malformed line) (hline : allBlank line = false) :
    (g.answer line).1.toRequest = false ∧ (g.answer line).2 = g := by
  cases h with
  | blank hblank => exact absurd hblank (by rw [hline]; decide)
  | noSnapshot hnone => exact ⟨by rw [answer, hnone]; rfl, by rw [answer, hnone]⟩
  | noAddress hsome haddress =>
    have hrequest := Snapshot.request?_eq_none_iff.2 haddress
    simp only [answer, hsome, hrequest]
    exact ⟨rfl, trivial⟩

/-- An evaluation error is the answer to a request.  That it failed does not make its line
malformed, and the hit that was counted stays. -/
theorem exists_request_of_evaluationError (h : (g.answer line).1 = .evaluationError)
    (hline : allBlank line = false) : ∃ r, requestOn? line = some r := by
  refine exists_request fun hmalformed => ?_
  have hanswer := (g.answer_of_malformed hmalformed hline).1
  rw [h] at hanswer
  cases hanswer

/-! ## 2. Malformed lines in a session -/

variable {entry : List Call × String}

theorem asks_of_request (h : ¬Malformed entry.2) : asks entry = true := by
  rw [asks, allBlank_eq_false h]
  rfl

theorem pass_malformed (h : Malformed entry.2) : g.pass entry = (g.run entry.1).2 := by
  unfold pass
  split
  · next hasks =>
    exact (answer_of_malformed _ h (by simpa [asks] using hasks)).2
  · rfl

theorem pass_request {r : Request} (h : requestOn? entry.2 = some r) :
    g.pass entry = ((g.run entry.1).2.decide (g.run entry.1).2.active.rules r).2 := by
  rw [pass, if_pos (asks_of_request (not_malformed h)), answer_of_request _ h, answerRequest_snd]

theorem answersAmid_malformed (h : Malformed entry.2) (session : List (List Call × String)) :
    (g.answersAmid (entry :: session)).filter Answer.toRequest =
      ((g.run entry.1).2.answersAmid session).filter Answer.toRequest := by
  rw [← g.pass_malformed h]
  cases hasks : asks entry with
  | false => rw [g.answersAmid_blank hasks]
  | true =>
    have hanswer := ((g.run entry.1).2.answer_of_malformed h (by simpa [asks] using hasks)).1
    rw [g.answersAmid_asks hasks, List.filter_cons_of_neg (by rw [hanswer]; decide)]

theorem answersAmid_request (h : ¬Malformed entry.2) (session : List (List Call × String)) :
    (g.answersAmid (entry :: session)).filter Answer.toRequest =
      ((g.run entry.1).2.answer entry.2).1 ::
        ((g.pass entry).answersAmid session).filter Answer.toRequest := by
  obtain ⟨r, hr⟩ := exists_request h
  have hanswer : ((g.run entry.1).2.answer entry.2).1.toRequest = true := by
    rw [answer_of_request _ hr]
    exact answerRequest_toRequest _ r
  rw [g.answersAmid_asks (asks_of_request h), List.filter_cons_of_pos hanswer]

/-- **A session without its malformed lines.**  What happens before such a line waits for the next
line that stays, behind what is waiting already.  What is still waiting at the end stands beside the
session. -/
def trim (waiting : List Call) :
    List (List Call × String) → List (List Call × String) × List Call
  | [] => ([], waiting)
  | (calls, line) :: session =>
    if Malformed line then trim (waiting ++ calls) session
    else ((waiting ++ calls, line) :: (trim [] session).1, (trim [] session).2)

variable {waiting calls : List Call} {session : List (List Call × String)}

theorem trim_malformed (h : Malformed line) :
    trim waiting ((calls, line) :: session) = trim (waiting ++ calls) session := by
  rw [trim, if_pos h]

theorem trim_request (h : ¬Malformed line) : trim waiting ((calls, line) :: session) =
    ((waiting ++ calls, line) :: (trim [] session).1, (trim [] session).2) := by
  rw [trim, if_neg h]

/-- The lines of a trimmed session are those that hold requests, in their order. -/
theorem trim_lines : ∀ (session : List (List Call × String)) (waiting : List Call),
    (trim waiting session).1.map Prod.snd =
      (session.map Prod.snd).filter fun line => ¬Malformed line
  | [], _ => rfl
  | (calls, line) :: session, waiting => by
    by_cases h : Malformed line
    · rw [trim_malformed h, trim_lines session, List.map_cons,
        List.filter_cons_of_neg (by simpa using h)]
    · rw [trim_request h, List.map_cons, trim_lines session, List.map_cons,
        List.filter_cons_of_pos (by simpa using h)]

/-- If nothing happens between lines, a trimmed session is these lines, and nothing waits behind the
last of them. -/
theorem trim_map : ∀ lines : List String, trim [] (lines.map ([], ·)) =
    ((lines.filter fun line => ¬Malformed line).map ([], ·), [])
  | [] => rfl
  | line :: lines => by
    by_cases h : Malformed line
    · rw [List.map_cons, trim_malformed h, List.filter_cons_of_neg (by simpa using h)]
      exact trim_map lines
    · rw [List.map_cons, trim_request h, List.filter_cons_of_pos (by simpa using h), trim_map lines]
      rfl

theorem trim_append : ∀ (before after : List (List Call × String)) (waiting : List Call),
    trim waiting (before ++ after) =
      ((trim waiting before).1 ++ (trim (trim waiting before).2 after).1,
        (trim (trim waiting before).2 after).2)
  | [], _, _ => rfl
  | (calls, line) :: before, after, waiting => by
    by_cases h : Malformed line
    · rw [List.cons_append, trim_malformed h, trim_malformed h, trim_append before]
    · rw [List.cons_append, trim_request h, trim_request h, trim_append before]
      rfl

theorem run_waiting (g : Gate) (waiting calls : List Call) :
    (g.run (waiting ++ calls)).2 = ((g.run waiting).2.run calls).2 := by
  rw [run_append]

theorem pass_waiting (g : Gate) (waiting : List Call) (entry : List Call × String) :
    g.pass (waiting ++ entry.1, entry.2) = (g.run waiting).2.pass entry := by
  unfold pass
  rw [run_waiting]
  rfl

/-- **The gate behind a session** is the gate behind the session without its malformed lines, if the
calls that came with these are made all the same. -/
theorem behind_trim : ∀ (session : List (List Call × String)) (waiting : List Call) (g : Gate),
    ((g.behind (trim waiting session).1).run (trim waiting session).2).2 =
      (g.run waiting).2.behind session
  | [], _, _ => rfl
  | entry :: session, waiting, g => by
    change _ = ((g.run waiting).2.pass entry).behind session
    by_cases h : Malformed entry.2
    · rw [trim_malformed h, behind_trim session, run_waiting, pass_malformed _ h]
    · rw [trim_request h, ← pass_waiting]
      exact behind_trim session [] _

/-- **The answers to the lines of a trimmed session** are those to requests.  The calls that wait
for the next line are carried along in the induction. -/
theorem answersAmid_trim : ∀ (session : List (List Call × String)) (waiting : List Call) (g : Gate),
    g.answersAmid (trim waiting session).1 =
      ((g.run waiting).2.answersAmid session).filter Answer.toRequest
  | [], _, _ => rfl
  | entry :: session, waiting, g => by
    by_cases h : Malformed entry.2
    · rw [trim_malformed h, answersAmid_trim session, run_waiting, answersAmid_malformed _ h]
    · have hasks : asks (waiting ++ entry.1, entry.2) = true := asks_of_request h
      rw [trim_request h, answersAmid_asks _ hasks, answersAmid_trim session, pass_waiting,
        run_waiting, answersAmid_request _ h]
      rfl

theorem length_trim (before : List (List Call × String)) :
    ((trim waiting before).1.filter asks).length =
      (before.filter fun entry => ¬Malformed entry.2).length := by
  have hasks : ∀ entry ∈ (trim waiting before).1, asks entry = true := by
    intro entry hentry
    have hline := List.mem_map_of_mem (f := Prod.snd) hentry
    rw [trim_lines, List.mem_filter] at hline
    exact asks_of_request (by simpa using hline.2)
  rw [List.filter_eq_self.2 hasks, ← List.length_map Prod.snd, trim_lines, List.filter_map,
    List.length_map]
  rfl

/-- **Each line that stays is answered as it was**, by the gate that it was answered by, only
earlier in the output. -/
theorem answersAmid_trim_get? (g : Gate) (before : List (List Call × String))
    (h : ¬Malformed entry.2) (after : List (List Call × String)) :
    (g.answersAmid (trim [] (before ++ entry :: after)).1)[
        (before.filter fun earlier => ¬Malformed earlier.2).length]? =
      some (((g.behind before).run entry.1).2.answer entry.2).1 := by
  have hasks : asks ((trim [] before).2 ++ entry.1, entry.2) = true := asks_of_request h
  have hgate := behind_trim before [] g
  rw [trim_append, trim_request h, ← length_trim before, answersAmid_get? g _ hasks, run_waiting,
    hgate]
  rfl

end Gate

/-! ## 3. Requests that fail -/

/-- Whether a line holds a request of a client, given by canonical address. -/
def comesFrom (key : Address) (line : String) : Bool :=
  (requestOn? line).any (·.address.canonical == key)

/-- How many lines of a session hold a request of a client. -/
def linesOf (key : Address) (session : List (List Call × String)) : Nat :=
  session.countP fun entry => comesFrom key entry.2

theorem linesOf_insert {key : Address} {entry : List Call × String}
    (h : comesFrom key entry.2 = true) (before after : List (List Call × String)) :
    linesOf key (before ++ entry :: after) = linesOf key (before ++ after) + 1 := by
  simp only [linesOf, List.countP_append, List.countP_cons, h, if_true, Nat.add_assoc]

/-- Time that passes. -/
def Call.Pause : Call → Prop
  | .elapse _ => True
  | _ => False

theorem Tally.decided_hits (t : Tally) (clock : Nat)
    (result : Except EvaluationError Gate.Decision) :
    (t.decided clock result).hits = t.hits + 1 := by
  unfold decided
  cases namedRule result with
  | none => rfl
  | some rule => rfl

namespace Gate

variable {session : List (List Call × String)}

theorem run_pause : ∀ {calls : List Call} (g : Gate), (∀ c ∈ calls, c.Pause) →
    (g.run calls).2.table.tallies = g.table.tallies
  | [], _, _ => rfl
  | c :: calls, g, h => by
    have hrest := run_pause (g.perform c).2 fun c' hc' => h c' (List.mem_cons_of_mem c hc')
    rw [run_cons]
    refine hrest.trans ?_
    cases c with
    | elapse millis => rfl
    | _ => exact (h _ List.mem_cons_self).elim

/-- **A request is a hit of its client, whatever comes of it.**  The table is changed before the
rules are tried, so an error comes too late to prevent it. -/
theorem decide_hits (g : Gate) (rules : List Rule) (r : Request) (a : Address) :
    ((g.decide rules r).2.table.tally a).hits =
      (g.table.tally a).hits + .ofNat (r.address.canonical == a.canonical).toNat := by
  rw [HitTable.tally, (g.decides rules r).tallies]
  by_cases h : a.canonical = r.address.canonical
  · rw [if_pos h, Option.getD_some, Tally.decided_hits, ← HitTable.tally_congr h, h,
      beq_self_eq_true]
    rfl
  · rw [if_neg h, beq_false_of_ne (Ne.symm h)]
    exact (UInt64.add_zero _).symm

theorem pass_hits (g : Gate) {entry : List Call × String} (h : ∀ c ∈ entry.1, c.Pause)
    (a : Address) : ((g.pass entry).table.tally a).hits =
      (g.table.tally a).hits + .ofNat (comesFrom a.canonical entry.2).toNat := by
  have hpause : (g.run entry.1).2.table.tally a = g.table.tally a := by
    rw [HitTable.tally, HitTable.tally, HitTable.tally?, HitTable.tally?, run_pause g h]
  rcases hr : requestOn? entry.2 with _ | r
  · rw [pass_malformed g (requestOn?_eq_none_iff.1 hr), hpause, comesFrom, hr]
    exact (UInt64.add_zero _).symm
  · rw [pass_request g hr, decide_hits, hpause, comesFrom, hr]
    rfl

/-- **The hits of a client are its lines**, if only time passes between lines.  Sweeps would remove
clients, and other requests would count. -/
theorem behind_hits (g : Gate) (a : Address) :
    (∀ entry ∈ session, ∀ c ∈ entry.1, c.Pause) →
    ((g.behind session).table.tally a).hits = (g.table.tally a).hits +
      .ofNat (linesOf a.canonical session) := by
  induction session using List.reverseRecOn with
  | nil => exact fun _ => (UInt64.add_zero _).symm
  | append_singleton session entry ih =>
    intro h
    have hsession := ih fun e he => h e (List.mem_append_left _ he)
    have hentry := h entry (List.mem_append_right _ List.mem_cons_self)
    rw [behind, List.foldl_append, List.foldl_cons, List.foldl_nil, ← behind, pass_hits _ hentry,
      hsession, linesOf, linesOf, Metrics.ofNat_countP_concat, UInt64.add_assoc]

/-- With room in the counter a request sees one hit more than there are, which is its own. -/
theorem facts_hits {g : Gate} {r : Request}
    (h : (g.table.tally r.address).hits.toNat + 1 < UInt64.size) :
    (g.facts r).hits = (g.table.tally r.address).hits + 1 := by
  rw [← Tally.ordinal_eq h]
  rfl

/-- A gate that was just made has seen nobody, as compiling its rules does not touch the table. -/
theorem table_of_ofConfig {c : Config} {metrics : Option Metrics} {g : Gate}
    (h : ofConfig c metrics = .ok g) : g.table = .empty := by
  have hagrees := reload_agrees (ofSettings c metrics) c.rules
  rw [reload_of_ofConfig h] at hagrees
  exact hagrees.table

/-- **The number that a request sees**, if only time has passed between the lines since the gate was
made: it is the next one after all lines of its client. -/
theorem behind_facts_hits {g : Gate} (hnew : g.table = .empty)
    (h : ∀ entry ∈ session, ∀ c ∈ entry.1, c.Pause) (r : Request)
    (hroom : linesOf r.address.canonical session + 1 < UInt64.size) :
    ((g.behind session).facts r).hits =
      .ofNat (linesOf r.address.canonical session + 1) := by
  have hhits := behind_hits g r.address h
  rw [hnew] at hhits
  have hhits : ((g.behind session).table.tally r.address).hits =
      .ofNat (linesOf r.address.canonical session) := hhits.trans (UInt64.zero_add _)
  have hnumber : (UInt64.ofNat (linesOf r.address.canonical session)).toNat + 1 < UInt64.size := by
    rw [UInt64.toNat_ofNat_of_lt' (by omega)]
    exact hroom
  rw [facts_hits (by rw [hhits]; exact hnumber), hhits, UInt64.ofNat_add]
  rfl

/-- **A request counts behind all that follows**: it leaves its client one hit more, however many
lines come between. -/
theorem behind_hits_insert (g : Gate) {before after : List (List Call × String)}
    {entry : List Call × String} {a : Address} (hcomes : comesFrom a.canonical entry.2 = true)
    (h : ∀ e ∈ before ++ entry :: after, ∀ c ∈ e.1, c.Pause) :
    ((g.behind (before ++ entry :: after)).table.tally a).hits =
      ((g.behind (before ++ after)).table.tally a).hits + 1 := by
  have hless := (List.sublist_cons_self entry after).append_left before
  rw [behind_hits g a h, behind_hits g a fun e he => h e (hless.subset he),
    linesOf_insert hcomes, UInt64.ofNat_add, ← UInt64.add_assoc]
  rfl

/-- **And a later request of the client sees one more**, which a rule about hits may turn into
another answer. -/
theorem behind_facts_hits_insert {g : Gate} (hnew : g.table = .empty)
    {before after : List (List Call × String)} {entry : List Call × String} {r : Request}
    (hcomes : comesFrom r.address.canonical entry.2 = true)
    (h : ∀ e ∈ before ++ entry :: after, ∀ c ∈ e.1, c.Pause)
    (hroom : before.length + after.length + 2 < UInt64.size) :
    ((g.behind (before ++ entry :: after)).facts r).hits =
      ((g.behind (before ++ after)).facts r).hits + 1 := by
  have hless := (List.sublist_cons_self entry after).append_left before
  have hcount := linesOf_insert hcomes before after
  have hfew : linesOf r.address.canonical (before ++ after) ≤ before.length + after.length := by
    rw [← List.length_append]
    exact List.countP_le_length
  rw [behind_facts_hits hnew h r (by omega),
    behind_facts_hits hnew (fun e he => h e (hless.subset he)) r (by omega), hcount,
    UInt64.ofNat_add _ 1]
  rfl

end Gate

/-! ## 4. Runs -/

/-- An input as a session in which nothing happens between lines. -/
def sessionOf (input : String) : List (List Call × String) :=
  (Text.lines input).map ([], ·)

/-- **Malformed lines are inert, and requests that fail are not.**  With any configuration that is
accepted and whose rules compile, an input without its blank lines, its lines that are no snapshot
and its lines whose address is none gets the answers to the lines that are left, and the same
metrics, and leaves the same gate.  So it is whatever passes between two lines, if it still does:
the lines that stay are answered as they were, and the gate behind them all is the same.  A line
that was answered with an evaluation error holds a request, and as long as nothing is swept it
counts: behind any later lines its client has one hit more than without it, and a later request of
the client sees one more. -/
theorem malformed_lines_inert {c : Config} {g : Gate} {config : String} {wanted : Bool}
    (hread : Config.read config = .ok c)
    (hgate : Gate.ofConfig c (if wanted then some {} else none) = .ok g) :
    (∀ (path : Option String) (input input' : String),
      Text.lines input' = (Text.lines input).filter (fun line => ¬Malformed line) →
      (Command.eval path wanted).run (some config.toUTF8) (some input.toUTF8) =
        ⟨.success, transcript (g.answersAmid (sessionOf input)) ++
          (g.behind (sessionOf input)).report⟩ ∧
      (Command.eval path wanted).run (some config.toUTF8) (some input'.toUTF8) =
        ⟨.success, transcript ((g.answersAmid (sessionOf input)).filter Answer.toRequest) ++
          (g.behind (sessionOf input)).report⟩ ∧
      g.behind (sessionOf input') = g.behind (sessionOf input)) ∧
    (∀ session : List (List Call × String),
      (Gate.trim [] session).1.map Prod.snd =
        (session.map Prod.snd).filter (fun line => ¬Malformed line) ∧
      ((g.behind (Gate.trim [] session).1).run (Gate.trim [] session).2).2 = g.behind session ∧
      ∀ before entry after, session = before ++ entry :: after → ¬Malformed entry.2 →
        ∃ a, (g.answersAmid session)[(before.filter Gate.asks).length]? = some a ∧
          (g.answersAmid (Gate.trim [] session).1)[
            (before.filter fun earlier => ¬Malformed earlier.2).length]? = some a) ∧
    (∀ (before after : List (List Call × String)) (entry : List Call × String),
      (∀ e ∈ before ++ entry :: after, ∀ call ∈ e.1, call.Pause) → allBlank entry.2 = false →
      (((g.behind before).run entry.1).2.answer entry.2).1 = .evaluationError →
      ∃ r, requestOn? entry.2 = some r ∧
        ∀ r' : Request, r'.address.canonical = r.address.canonical →
          ((g.behind (before ++ entry :: after)).table.tally r'.address).hits =
            ((g.behind (before ++ after)).table.tally r'.address).hits + 1 ∧
          (before.length + after.length + 2 < UInt64.size →
            ((g.behind (before ++ entry :: after)).facts r').hits =
              ((g.behind (before ++ after)).facts r').hits + 1)) := by
  refine ⟨?_, ?_, ?_⟩
  · intro path input input' hlines
    have hrun := Command.run_eval_report hread hgate path
    have htrim : Gate.trim [] (sessionOf input) = (sessionOf input', []) := by
      rw [sessionOf, sessionOf, Gate.trim_map, hlines]
    have hanswers := Gate.answersAmid_trim (sessionOf input) [] g
    have hbehind := Gate.behind_trim (sessionOf input) [] g
    simp only [htrim, Gate.run] at hanswers hbehind
    refine ⟨hrun input, ?_, hbehind⟩
    rw [← hanswers, ← hbehind]
    exact hrun input'
  · intro session
    refine ⟨Gate.trim_lines session [], Gate.behind_trim session [] g, ?_⟩
    rintro before entry after rfl hentry
    exact ⟨_, g.answersAmid_get? before (Gate.asks_of_request hentry) after,
      g.answersAmid_trim_get? before hentry after⟩
  · intro before after entry hpause hline herror
    obtain ⟨r, hr⟩ := Gate.exists_request_of_evaluationError _ herror hline
    refine ⟨r, hr, fun r' hclient => ?_⟩
    have hcomes : comesFrom r'.address.canonical entry.2 = true := by
      rw [comesFrom, hr, Option.any_some, hclient, beq_self_eq_true]
    exact ⟨g.behind_hits_insert hcomes hpause,
      Gate.behind_facts_hits_insert (Gate.table_of_ofConfig hgate) hcomes hpause⟩

/-- The client `1::1` cannot be tested against an IPv4 block, so its first request fails; but it
counts, and its second request is throttled.  The three lines that hold no request change nothing of
this. -/
theorem malformed_lines_inert_between :
    ∃ (config input input' : String) (c : Config) (g : Gate) (r : Request),
      config = "[[rules]]\nid = 1\nrule = \"Hits > 1 => throttle\"\n\n" ++
        "[[rules]]\nid = 2\nrule = \"IP ~ 10.0.0.0/8 => reject\"\n" ∧
      input = "oops\n[\"1::1\"]\n \n[\"x\"]\n[\"1::1\"]\n" ∧
      input' = "[\"1::1\"]\n[\"1::1\"]\n" ∧
      Config.read config = .ok c ∧ Gate.ofConfig c (some {}) = .ok g ∧
      (Command.eval none true).run (some config.toUTF8) (some input.toUTF8) =
        ⟨.success, "invalid-request\nevaluation-error\ninvalid-address\nthrottle\n" ++
          (g.behind (sessionOf input)).report⟩ ∧
      (Command.eval none true).run (some config.toUTF8) (some input'.toUTF8) =
        ⟨.success, "evaluation-error\nthrottle\n" ++ (g.behind (sessionOf input)).report⟩ ∧
      requestOn? "[\"1::1\"]" = some r ∧
      ((g.behind [([], "oops"), ([], "[\"1::1\"]"), ([.elapse 1000], "[\"x\"]")]).facts r).hits =
        ((g.behind [([], "oops"), ([.elapse 1000], "[\"x\"]")]).facts r).hits + 1 := by
  let config := "[[rules]]\nid = 1\nrule = \"Hits > 1 => throttle\"\n\n" ++
    "[[rules]]\nid = 2\nrule = \"IP ~ 10.0.0.0/8 => reject\"\n"
  let input := "oops\n[\"1::1\"]\n \n[\"x\"]\n[\"1::1\"]\n"
  let c : Config := { rules :=
    [⟨1, "Hits > 1 => throttle"⟩, ⟨2, "IP ~ 10.0.0.0/8 => reject"⟩] }
  have hread : Config.read config = .ok c := by decide +kernel
  have hmade : (Gate.ofConfig c (some {})).toOption.map (fun g =>
      (g.answersAmid (sessionOf input), ((g.behind [([], "oops")]).answer "[\"1::1\"]").1)) =
        some ([.invalidRequest, .evaluationError, .invalidAddress, .action "throttle"],
          .evaluationError) := by
    decide +kernel
  rcases hgate : Gate.ofConfig c (some {}) with e | g
  · rw [hgate] at hmade
    cases hmade
  · rw [hgate] at hmade
    obtain ⟨hanswers, herror⟩ := Prod.mk.inj (Option.some.inj hmade)
    have hwanted : Gate.ofConfig c (if true then some {} else none) = .ok g := hgate
    obtain ⟨hinput, -, hcounts⟩ := malformed_lines_inert hread hwanted
    obtain ⟨hrun, hrun', -⟩ := hinput none input "[\"1::1\"]\n[\"1::1\"]\n" (by decide +kernel)
    rw [hanswers] at hrun hrun'
    obtain ⟨r, hr, hclient⟩ := hcounts [([], "oops")] [([.elapse 1000], "[\"x\"]")]
      ([], "[\"1::1\"]") (by simp [Call.Pause]) rfl herror
    exact ⟨config, input, _, c, g, r, rfl, rfl, rfl, hread, hgate, hrun, hrun', hr,
      (hclient r rfl).2 (by decide)⟩

end Turnstile
