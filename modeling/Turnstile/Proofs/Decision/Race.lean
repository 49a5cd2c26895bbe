/-
# Decisions that race

Callers decide at the same time, and share one hit table.  A decision comes to the table up to four
times: it looks for a tally to count the hit in, and makes one if there was none; and if a rule is
named it looks for a tally to count the match in, and makes one if there was none.  Between any two
of these anything can be done by the others, so a tally that was missing may have been made when its
caller comes back to make it.  A race is any number of callers, and a schedule any order of their
turns.

**A turn is a hit, or a match, or nothing.**  Making a tally keeps one that is there, so a turn
changes a tally by one hit or by one match or not at all, no matter what happened since the caller's
last turn (`Caller.Moves`).

**Nobody waits for anybody.**  Four turns are enough for a caller, whatever the others do
(`Race.over_of_turns`); and four turns without a break are a decision of a gate (`Race.run_alone`).
-/
import Turnstile.Proofs.Decision.FirstMatch

namespace Turnstile

open Gate (Decision)

/-! ## 1. Callers -/

/-- How far a decision has come. -/
inductive Stage where
  | arriving
  /-- There was no tally to count the hit in.  The clock has been read. -/
  | entering (clock : Nat)
  /-- The hit is counted and has its number. -/
  | deciding (number : UInt64)
  /-- A rule is named, and there was no tally to count the match in. -/
  | noting (number : UInt64) (result : Except EvaluationError Decision) (rule : RuleId)
  | finished (number : UInt64) (result : Except EvaluationError Decision)

namespace Stage

/-- The number that the hit has got. -/
def number? : Stage → Option UInt64
  | deciding number | noting number _ _ | finished number _ => some number
  | _ => none

/-- The result, when all is done. -/
def result? : Stage → Option (Except EvaluationError Decision)
  | finished _ result => some result
  | _ => none

/-- The rule that was named, when all is done. -/
def named? (s : Stage) : Option RuleId :=
  s.result?.bind namedRule

/-- How many turns are left at most. -/
def left : Stage → Nat
  | arriving => 4
  | entering _ => 3
  | deciding _ => 2
  | noting _ _ _ => 1
  | finished _ _ => 0

theorem left_le (s : Stage) : s.left ≤ 4 := by
  unfold left
  split <;> omega

/-- What has a result has finished, and keeps the number that it was decided with. -/
theorem exists_finished {s : Stage} (h : s.result?.isSome) :
    ∃ number result, s = .finished number result := by
  cases s with
  | finished number result => exact ⟨number, result, rfl⟩
  | _ => cases h

end Stage

/-- A request that is being decided by a list of rules. -/
structure Caller where
  rules : List Rule
  request : Request
  stage : Stage := .arriving

namespace Caller

/-- Whether a caller comes for a client. -/
def isOf (a : Address) (c : Caller) : Bool :=
  c.request.address.canonical == a.canonical

/-- What a caller asks. -/
def call (c : Caller) : List Rule × Request := (c.rules, c.request)

variable (default : String) (lists : AccessLists)

/-- What the rules decide for a hit with a given number. -/
def result (c : Caller) (number : UInt64) : Except EvaluationError Decision :=
  verdict default (.ofRequest c.request number lists) c.rules

/-- One turn at the table. -/
def act (t : HitTable) (c : Caller) : HitTable × Stage :=
  match c.stage with
  | .arriving => match t.changePresent c.request.address (.hit t.clock) with
    | some t' => (t', .deciding (t.tally c.request.address).ordinal)
    | none => (t, .entering t.clock)
  | .entering clock =>
    (t.change c.request.address (.hit clock), .deciding (t.tally c.request.address).ordinal)
  | .deciding number =>
    let result := c.result default lists number
    match namedRule result with
    | none => (t, .finished number result)
    | some rule => match t.changePresent c.request.address (.ruled rule) with
      | some t' => (t', .finished number result)
      | none => (t, .noting number result rule)
  | .noting number result rule =>
    (t.change c.request.address (.ruled rule), .finished number result)
  | .finished number result => (t, .finished number result)

end Caller

/-! ## 2. Races -/

/-- Callers at one table. -/
structure Race where
  default : String
  lists : AccessLists
  table : HitTable := .empty
  callers : List Caller

/-- Whose turn it is; or time passes. -/
inductive Turn where
  | caller (index : Nat)
  | elapse (millis : Nat)
deriving DecidableEq

namespace Race

/-- Calls that all come to an empty table. -/
def start (default : String) (lists : AccessLists) (calls : List (List Rule × Request)) : Race :=
  { default, lists, callers := calls.map fun call => { rules := call.1, request := call.2 } }

/-- One turn. -/
def turn (race : Race) : Turn → Race
  | .caller i => match race.callers[i]? with
    | some c =>
      let (table, stage) := c.act race.default race.lists race.table
      { race with table, callers := race.callers.set i { c with stage } }
    | none => race
  | .elapse millis => { race with table := race.table.elapse millis }

/-- Turn after turn. -/
def run (race : Race) (schedule : List Turn) : Race :=
  schedule.foldl turn race

variable (race : Race)

/-- All callers are done. -/
def Over : Prop := ∀ c ∈ race.callers, c.stage.result?.isSome

/-- The gate that a race goes on at. -/
def gate : Gate := { defaultAction := race.default, lists := race.lists, table := race.table }

end Race

/-! ## 3. What a turn can do -/

namespace HitTable

variable {t t' : HitTable} {a b : Address} {f : Tally → Tally}

/-- A tally that is found is changed as one that is made, so a caller that finds one has nothing to
fear of those that come between. -/
theorem change_of_present (h : t.changePresent a f = some t') : t' = t.change a f := by
  rw [← changePresent_eq, h]
  rfl

theorem changePresent_of_isSome (h : (t.tally? a).isSome) :
    t.changePresent a f = some (t.change a f) := by
  obtain ⟨old, ht⟩ := Option.isSome_iff_exists.1 h
  simp only [changePresent, change, tally, ht, Option.map_some, Option.getD_some]

end HitTable

namespace Caller

variable {default : String} {lists : AccessLists} {t : HitTable} {c : Caller}

/-- What a stage says of the result is what the rules decide for the number. -/
def Sound (default : String) (lists : AccessLists) (c : Caller) : Prop :=
  match c.stage with
  | .noting number result rule => result = c.result default lists number ∧
      namedRule result = some rule
  | .finished number result => result = c.result default lists number
  | _ => True

/-- **What a turn can do**, by the stages that it leads from and to.  A hit is counted with the next
number, whether its tally was found or made; a match is counted if a rule is named; all else leaves
the table as it is. -/
inductive Moves (default : String) (lists : AccessLists) (t : HitTable) (c : Caller) :
    HitTable → Stage → Prop
  | counts (clock : Nat) : c.stage = .arriving ∨ c.stage = .entering clock →
      Moves default lists t c (t.change c.request.address (.hit clock))
        (.deciding (t.tally c.request.address).ordinal)
  | misses : c.stage = .arriving → Moves default lists t c t (.entering t.clock)
  | ends {number : UInt64} : c.stage = .deciding number →
      namedRule (c.result default lists number) = none →
      Moves default lists t c t (.finished number (c.result default lists number))
  | notes {number : UInt64} {rule : RuleId} : c.stage = .deciding number →
      namedRule (c.result default lists number) = some rule →
      Moves default lists t c (t.change c.request.address (.ruled rule))
        (.finished number (c.result default lists number))
  | missesNote {number : UInt64} {rule : RuleId} : c.stage = .deciding number →
      namedRule (c.result default lists number) = some rule →
      Moves default lists t c t (.noting number (c.result default lists number) rule)
  | noted {number : UInt64} {result : Except EvaluationError Decision} {rule : RuleId} :
      c.stage = .noting number result rule →
      Moves default lists t c (t.change c.request.address (.ruled rule)) (.finished number result)
  | rests {number : UInt64} {result : Except EvaluationError Decision} :
      c.stage = .finished number result → Moves default lists t c t (.finished number result)

variable (default lists t c) in
theorem act_moves :
    Moves default lists t c (c.act default lists t).1 (c.act default lists t).2 := by
  obtain ⟨rules, request, stage⟩ := c
  cases stage with
  | arriving =>
    unfold act
    dsimp only
    split
    · next t' h =>
      rw [HitTable.change_of_present h]
      exact .counts t.clock (.inl rfl)
    · exact .misses rfl
  | entering clock => exact .counts clock (.inr rfl)
  | deciding number =>
    unfold act
    dsimp only
    split
    · next h => exact .ends rfl h
    · next rule h =>
      split
      · next t' h' =>
        rw [HitTable.change_of_present h']
        exact .notes rfl h
      · exact .missesNote rfl h
  | noting number result rule => exact .noted rfl
  | finished number result => exact .rests rfl

namespace Moves

variable {t' : HitTable} {s : Stage}

theorem sound (h : Moves default lists t c t' s) (hc : c.Sound default lists) :
    Sound default lists { c with stage := s } := by
  unfold Sound at hc
  cases h with
  | counts clock _ => trivial
  | misses _ => trivial
  | ends _ _ => exact rfl
  | notes _ _ => exact rfl
  | missesNote _ hrule => exact ⟨rfl, hrule⟩
  | noted hstage =>
    rw [hstage] at hc
    exact hc.1
  | rests hstage =>
    rw [hstage] at hc
    exact hc

/-- Each turn is one turn less, whatever the table holds and whoever has changed it meanwhile. -/
theorem left_le (h : Moves default lists t c t' s) : s.left ≤ c.stage.left - 1 := by
  cases h with
  | counts clock hstage =>
    rcases hstage with hstage | hstage
    · rw [hstage]
      exact Nat.le_succ 2
    · rw [hstage]
      exact Nat.le_refl 2
  | misses hstage =>
    rw [hstage]
    exact Nat.le_refl 3
  | missesNote hstage _ =>
    rw [hstage]
    exact Nat.le_refl 1
  | _ => exact Nat.zero_le _

end Moves

end Caller

/-! ## 4. Schedules -/

namespace Race

theorem exists_split {callers : List Caller} {i : Nat} {c : Caller} (h : callers[i]? = some c) :
    ∃ before after, callers = before ++ c :: after ∧
      ∀ c', callers.set i c' = before ++ c' :: after := by
  obtain ⟨hi, hc⟩ := List.getElem?_eq_some_iff.1 h
  have hset : ∀ c', callers.set i c' = callers.take i ++ c' :: callers.drop (i + 1) := by
    intro c'
    rw [List.set_eq_take_append_cons_drop, if_pos hi]
  refine ⟨callers.take i, callers.drop (i + 1), ?_, hset⟩
  rw [← hset c, ← hc, List.set_getElem_self]

/-- What a turn makes of a caller and the table.  All other callers are where they were. -/
theorem turn_caller {race : Race} {i : Nat} {c : Caller} (h : race.callers[i]? = some c) :
    race.turn (.caller i) = { race with
      table := (c.act race.default race.lists race.table).1
      callers := race.callers.set i
        { c with stage := (c.act race.default race.lists race.table).2 } } := by
  rw [turn, h]

/-- Turns of others do not delay a caller: no step waits for anything that another caller does. -/
theorem left_turn {race : Race} {i : Nat} {c : Caller} (h : race.callers[i]? = some c)
    (next : Turn) : ∃ c', (race.turn next).callers[i]? = some c' ∧
      c'.stage.left ≤ c.stage.left - if next == .caller i then 1 else 0 := by
  by_cases hi : next = .caller i
  · subst hi
    obtain ⟨hlt, -⟩ := List.getElem?_eq_some_iff.1 h
    refine ⟨_, by rw [turn_caller h, List.getElem?_set_self hlt], ?_⟩
    rw [if_pos (beq_self_eq_true _)]
    exact (Caller.act_moves _ _ _ c).left_le
  · refine ⟨c, ?_, Nat.le_of_eq ?_⟩
    · cases next with
      | elapse millis => exact h
      | caller j =>
        have hji : j ≠ i := fun he => hi (congrArg Turn.caller he)
        rcases hj : race.callers[j]? with _ | d
        · rw [turn, hj]
          exact h
        · rw [turn_caller hj, List.getElem?_set_ne hji]
          exact h
    · rw [if_neg (mt eq_of_beq hi), Nat.sub_zero]

theorem left_run (i : Nat) : ∀ (schedule : List Turn) {race : Race} {c : Caller},
    race.callers[i]? = some c → ∃ c', (race.run schedule).callers[i]? = some c' ∧
      c'.stage.left ≤ c.stage.left - schedule.count (.caller i)
  | [], _, c, h => ⟨c, h, Nat.le_refl _⟩
  | next :: schedule, _, c, h => by
    obtain ⟨c₁, h₁, hleft₁⟩ := left_turn h next
    obtain ⟨c₂, h₂, hleft₂⟩ := left_run i schedule h₁
    refine ⟨c₂, h₂, ?_⟩
    rw [List.count_cons]
    omega

theorem length_run : ∀ (schedule : List Turn) (race : Race),
    (race.run schedule).callers.length = race.callers.length
  | [], _ => rfl
  | next :: schedule, race => by
    rw [run, List.foldl_cons]
    refine (length_run schedule (race.turn next)).trans ?_
    cases next with
    | elapse millis => rfl
    | caller i =>
      rcases hi : race.callers[i]? with _ | c
      · rw [turn, hi]
      · rw [turn_caller hi, List.length_set]

/-- **Nobody waits for anybody.**  When everyone has had four turns, all is over, in whatever order
they were had. -/
theorem over_of_turns (race : Race) (schedule : List Turn)
    (h : ∀ i < race.callers.length, 4 ≤ schedule.count (.caller i)) :
    (race.run schedule).Over := by
  intro c hc
  obtain ⟨i, hi⟩ := List.getElem?_of_mem hc
  have hlt : i < race.callers.length := by
    rw [← length_run schedule race]
    exact (List.getElem?_eq_some_iff.1 hi).1
  obtain ⟨c', hc', hleft⟩ := left_run i schedule (List.getElem?_eq_getElem hlt)
  rw [hi, Option.some.injEq] at hc'
  rw [← hc'] at hleft
  have hfour := (race.callers[i]).stage.left_le
  have hturns := h i hlt
  have hdone : c.stage.left = 0 := by omega
  cases hstage : c.stage with
  | finished number result => rfl
  | _ =>
    rw [hstage] at hdone
    cases hdone

end Race

/-! ## 5. One caller without a break -/

namespace Caller

variable (default : String) (lists : AccessLists)

/-- Several turns of a caller without a break. -/
def acts : Nat → HitTable → Caller → HitTable × Caller
  | 0, t, c => (t, c)
  | n + 1, t, c =>
    acts n (c.act default lists t).1 { c with stage := (c.act default lists t).2 }

theorem acts_finished {c : Caller} {number : UInt64} {result : Except EvaluationError Decision}
    (h : c.stage = .finished number result) (t : HitTable) : ∀ n, acts default lists n t c = (t, c)
  | 0 => rfl
  | n + 1 => by
    have hact : c.act default lists t = (t, .finished number result) := by rw [act, h]
    have hsame : { c with stage := .finished number result } = c := by rw [← h]
    rw [acts, hact, hsame]
    exact acts_finished h t n

/-- The search for a tally to count the match in finds the one that the hit was counted in, unless a
sweep has come between. -/
theorem acts_deciding {c : Caller} {number : UInt64} (h : c.stage = .deciding number)
    {t : HitTable} (ht : (t.tally? c.request.address).isSome) (n : Nat) :
    acts default lists (n + 1) t c =
      (t.recordNamed c.request.address (namedRule (c.result default lists number)),
        { c with stage := .finished number (c.result default lists number) }) := by
  have hact : c.act default lists t =
      (t.recordNamed c.request.address (namedRule (c.result default lists number)),
        .finished number (c.result default lists number)) := by
    unfold act
    rw [h]
    dsimp only
    rcases namedRule (c.result default lists number) with _ | rule
    · rfl
    · dsimp only
      rw [HitTable.changePresent_of_isSome ht, HitTable.recordNamed, HitTable.recordMatch_eq]
  rw [acts, hact]
  exact acts_finished default lists rfl _ n

theorem acts_arriving {c : Caller} (h : c.stage = .arriving) (t : HitTable) :
    acts default lists 4 t c =
      ((t.recordHit c.request.address).2.recordNamed c.request.address
          (namedRule (c.result default lists (t.recordHit c.request.address).1)),
        { c with
          stage := .finished (t.recordHit c.request.address).1
            (c.result default lists (t.recordHit c.request.address).1) }) := by
  have hmade : ((t.change c.request.address (.hit t.clock)).tally? c.request.address).isSome := by
    rw [HitTable.tally?_change, if_pos rfl]
    rfl
  rw [HitTable.recordHit_eq]
  by_cases hfound : (t.tally? c.request.address).isSome
  · have hact : c.act default lists t = (t.change c.request.address (.hit t.clock),
        .deciding (t.tally c.request.address).ordinal) := by
      unfold act
      rw [h]
      dsimp only
      rw [HitTable.changePresent_of_isSome hfound]
    rw [acts, hact]
    exact acts_deciding default lists (c := { c with stage := .deciding _ }) rfl hmade 2
  · have hact : c.act default lists t = (t, .entering t.clock) := by
      have hnone : t.changePresent c.request.address (.hit t.clock) = none := by
        rw [HitTable.changePresent, Option.not_isSome_iff_eq_none.1 hfound, Option.map_none]
      unfold act
      rw [h]
      dsimp only
      rw [hnone]
    rw [acts, hact]
    exact acts_deciding default lists (c := { c with stage := .deciding _ }) rfl hmade 1

end Caller

namespace Race

theorem run_replicate (i : Nat) : ∀ (n : Nat) {race : Race} {c : Caller},
    race.callers[i]? = some c → race.run (List.replicate n (.caller i)) = { race with
      table := (Caller.acts race.default race.lists n race.table c).1
      callers := race.callers.set i (Caller.acts race.default race.lists n race.table c).2 }
  | 0, race, c, h => by
    obtain ⟨hi, hc⟩ := List.getElem?_eq_some_iff.1 h
    have hset : race.callers.set i c = race.callers := by rw [← hc, List.set_getElem_self]
    show race = { race with callers := race.callers.set i c }
    rw [hset]
  | n + 1, race, c, h => by
    obtain ⟨hi, -⟩ := List.getElem?_eq_some_iff.1 h
    have hnext : (race.turn (.caller i)).callers[i]? =
        some { c with stage := (c.act race.default race.lists race.table).2 } := by
      rw [turn_caller h, List.getElem?_set_self hi]
    have ih := run_replicate i n hnext
    rw [turn_caller h] at ih
    rw [List.replicate_succ, run, List.foldl_cons, turn_caller h]
    refine ih.trans ?_
    rw [List.set_set]
    rfl

/-- **Turns without a break are a decision of a gate.**  So a race in which nobody is interrupted is
a run of requests, and the steps of a race are those of the decision. -/
theorem run_alone {race : Race} {i : Nat} {c : Caller} (h : race.callers[i]? = some c)
    (hstage : c.stage = .arriving) : race.run (List.replicate 4 (.caller i)) = { race with
      table := (race.gate.decide c.rules c.request).2.table
      callers := race.callers.set i { c with
        stage := .finished (race.table.recordHit c.request.address).1
          (race.gate.decide c.rules c.request).1 } } := by
  rw [run_replicate i 4 h, Caller.acts_arriving _ _ hstage, Gate.decide_table, Gate.decide_fst]
  rfl

end Race

end Turnstile
