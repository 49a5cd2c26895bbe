/-
# What a race counts

However callers race, each hit is counted once and gets a number of its own, and each match is
counted once (`race_counts`).

**The hits of a client are numbered in the order of the turns that count them.**  Each such turn
gives the next number, whether it finds the tally or makes it; so at every point the numbers that
have been given out are those from one to the count (`Race.Counted`), and it does not matter which
caller has which.  What is decided by a limit on hits is then a matter of how many numbers lie above
the limit (`Race.Kept.limited`).
-/
import Turnstile.Proofs.Decision.Metering
import Turnstile.Proofs.Decision.Race

namespace Turnstile

open Gate (Decision)

/-! ## 1. What callers tell -/

namespace Race

/-- What the stages of a client's callers tell. -/
def gather {β : Type} (a : Address) (f : Stage → Option β) (callers : List Caller) : List β :=
  callers.filterMap fun c => if c.isOf a then f c.stage else none

variable (race : Race) (a : Address)

/-- The numbers that a client's hits have got. -/
def numbers : List UInt64 := gather a Stage.number? race.callers

/-- The results that a client has got. -/
def results : List (Except EvaluationError Decision) := gather a Stage.result? race.callers

/-- The rules that were named for a client. -/
def named : List RuleId := gather a Stage.named? race.callers

end Race

/-- How many calls come for a client. -/
def visits (calls : List (List Rule × Request)) (a : Address) : Nat :=
  calls.countP fun call => call.2.address.canonical == a.canonical

namespace HitTable

variable {t : HitTable} {a b : Address} {f : Tally → Tally}

theorem tally_change_self (h : a.canonical = b.canonical) :
    (t.change b f).tally a = f (t.tally a) := by
  rw [tally, tally?_change, if_pos h, Option.getD_some, tally_congr h]

theorem tally_change_other (h : a.canonical ≠ b.canonical) :
    (t.change b f).tally a = t.tally a := by
  rw [tally, tally?_change, if_neg h, tally]

end HitTable

namespace Race

section Gather

variable {β : Type} {f : Stage → Option β} {a : Address} {callers before after : List Caller}
  {c : Caller} {s : Stage}

theorem gather_split (f : Stage → Option β) (a : Address) (before after : List Caller)
    (c : Caller) : (gather a f (before ++ c :: after)).Perm
      ((if c.isOf a then f c.stage else none).toList ++ gather a f (before ++ after)) := by
  unfold gather
  rw [List.filterMap_append, List.filterMap_cons, List.filterMap_append]
  rcases (if c.isOf a then f c.stage else none) with _ | x
  · exact .refl _
  · exact List.perm_middle

/-- A caller goes on that tells the same as before, or that comes for someone else: what is gathered
stays. -/
theorem gather_same (hsplit : callers = before ++ c :: after)
    (hf : c.isOf a → f s = f c.stage) :
    gather a f (before ++ { c with stage := s } :: after) = gather a f callers := by
  have hof : ({ c with stage := s } : Caller).isOf a = c.isOf a := rfl
  rw [hsplit]
  unfold gather
  rw [List.filterMap_append, List.filterMap_cons, List.filterMap_append, List.filterMap_cons, hof]
  by_cases ha : c.isOf a
  · rw [if_pos ha, if_pos ha, hf ha]
  · rw [if_neg ha, if_neg ha]

/-- A caller goes on that tells something for the first time: that is one thing more, wherever the
caller stands in the list. -/
theorem gather_new {x : β} (hsplit : callers = before ++ c :: after) (ha : c.isOf a)
    (hnone : f c.stage = none) (hsome : f s = some x) :
    (gather a f (before ++ { c with stage := s } :: after)).Perm (x :: gather a f callers) := by
  have hof : ({ c with stage := s } : Caller).isOf a = true := ha
  have hold := gather_split f a before after c
  have hnew := gather_split f a before after { c with stage := s }
  rw [if_pos ha, hnone] at hold
  rw [if_pos hof, hsome] at hnew
  rw [hsplit]
  exact hnew.trans (hold.symm.cons x)

theorem gather_room {n : Nat} (hsplit : callers = before ++ c :: after)
    (hroom : callers.length < n) :
    (gather a f (before ++ { c with stage := s } :: after)).length < n := by
  rw [hsplit, List.length_append, List.length_cons] at hroom
  refine Nat.lt_of_le_of_lt (List.length_filterMap_le _ _) ?_
  rw [List.length_append, List.length_cons]
  exact hroom

end Gather

/-! ## 2. What holds along a race -/

/-- **What holds of each client along a race.**  The numbers of its hits go from one to the count;
matches are as many as the results that name a rule, and the last rule is one of those. -/
structure Counted (a : Address) (race : Race) : Prop where
  numbers : ((race.numbers a).map UInt64.toNat).Perm
    (List.range' 1 (race.table.tally a).hits.toNat)
  matched : (race.table.tally a).matched.toNat = (race.named a).length
  lastRule (rule : RuleId) : (race.table.tally a).lastRule = some rule → rule ∈ race.named a
  noRule : (race.table.tally a).lastRule = none ↔ race.named a = []

namespace Counted

variable {race race' : Race} {a : Address}

theorem start (default : String) (lists : AccessLists) (calls : List (List Rule × Request))
    (a : Address) : Counted a (Race.start default lists calls) := by
  have hnone : ∀ {β : Type} (f : Stage → Option β), f .arriving = none →
      gather a f (Race.start default lists calls).callers = [] := by
    intro β f hf
    refine List.filterMap_eq_nil_iff.2 ?_
    intro c hc
    obtain ⟨call, -, rfl⟩ := List.mem_map.1 hc
    rw [hf, ite_self]
  have hnumbers : (Race.start default lists calls).numbers a = [] := hnone _ rfl
  have hnamed : (Race.start default lists calls).named a = [] := hnone _ rfl
  refine ⟨?_, ?_, ?_, ?_⟩
  · rw [hnumbers]
    exact .refl _
  · rw [hnamed]
    rfl
  · intro rule h
    cases h
  · exact ⟨fun _ => hnamed, fun _ => rfl⟩

theorem of_same (h : Counted a race) (htally : race'.table.tally a = race.table.tally a)
    (hnumbers : race'.numbers a = race.numbers a) (hnamed : race'.named a = race.named a) :
    Counted a race' := by
  obtain ⟨h₁, h₂, h₃, h₄⟩ := h
  rw [← htally, ← hnumbers] at h₁
  rw [← htally, ← hnamed] at h₂ h₃ h₄
  exact ⟨h₁, h₂, h₃, h₄⟩

/-- One more number behind so many, which is the next one: numbers and tally go up together. -/
theorem hit (h : Counted a race) {clock : Nat}
    (htally : race'.table.tally a = (race.table.tally a).hit clock)
    (hnumbers : (race'.numbers a).Perm ((race.table.tally a).ordinal :: race.numbers a))
    (hnamed : race'.named a = race.named a)
    (hroom : (race'.numbers a).length < UInt64.size) : Counted a race' := by
  have hlength := h.numbers.length_eq
  rw [List.length_map, List.length_range'] at hlength
  rw [hnumbers.length_eq, List.length_cons, hlength] at hroom
  have hordinal : (race.table.tally a).ordinal.toNat = (race.table.tally a).hits.toNat + 1 := by
    rw [Tally.ordinal_eq hroom, Tally.toNat_add_one hroom]
  have hhits : (race'.table.tally a).hits.toNat = (race.table.tally a).hits.toNat + 1 := by
    rw [htally]
    exact Tally.toNat_add_one hroom
  refine ⟨?_, ?_, ?_, ?_⟩
  · rw [hhits, List.range'_1_concat, Nat.add_comm 1, ← hordinal]
    exact ((hnumbers.map _).trans (h.numbers.cons _)).trans (List.perm_append_singleton _ _).symm
  · rw [htally, hnamed]
    exact h.matched
  · rw [htally, hnamed]
    exact h.lastRule
  · rw [htally, hnamed]
    exact h.noRule

/-- One more match, by a rule that is named, and the tally has the rule of one of those that were
named. -/
theorem ruled (h : Counted a race) {rule : RuleId}
    (htally : race'.table.tally a = (race.table.tally a).ruled rule)
    (hnumbers : race'.numbers a = race.numbers a)
    (hnamed : (race'.named a).Perm (rule :: race.named a))
    (hroom : (race'.named a).length < UInt64.size) : Counted a race' := by
  rw [hnamed.length_eq, List.length_cons, ← h.matched] at hroom
  refine ⟨?_, ?_, ?_, ?_⟩
  · rw [htally, hnumbers]
    exact h.numbers
  · rw [htally, hnamed.length_eq, List.length_cons, ← h.matched]
    exact Tally.toNat_add_one hroom
  · rw [htally, Tally.lastRule_ruled]
    rintro _ ⟨⟩
    exact hnamed.symm.subset List.mem_cons_self
  · rw [htally, Tally.lastRule_ruled]
    constructor
    · intro hlast
      cases hlast
    · intro hnil
      rw [hnil] at hnamed
      cases hnamed.nil_eq

section Turns

variable {before after : List Caller} {c : Caller} {s : Stage}

/-- A turn of a caller that has nothing new to tell, as when it looks for a tally and finds none. -/
theorem stays (h : Counted a race) (hsplit : race.callers = before ++ c :: after)
    (hnumber : s.number? = c.stage.number?) (hnamed : s.named? = c.stage.named?) :
    Counted a { race with callers := before ++ { c with stage := s } :: after } :=
  h.of_same rfl (gather_same hsplit fun _ => hnumber) (gather_same hsplit fun _ => hnamed)

/-- A turn of a caller that comes for someone else changes another tally and tells another
number. -/
theorem other (h : Counted a race) (hsplit : race.callers = before ++ c :: after)
    (ha : ¬c.isOf a) (f : Tally → Tally) :
    Counted a { race with
      table := race.table.change c.request.address f
      callers := before ++ { c with stage := s } :: after } := by
  have hkey : a.canonical ≠ c.request.address.canonical := fun he => ha (beq_iff_eq.2 he.symm)
  exact h.of_same (HitTable.tally_change_other hkey) (gather_same hsplit fun hof => absurd hof ha)
    (gather_same hsplit fun hof => absurd hof ha)

/-- A turn that counts a hit, on a tally that is found or on one that is made. -/
theorem counts (h : Counted a race) (hroom : race.callers.length < UInt64.size)
    (hsplit : race.callers = before ++ c :: after) (hnumber : c.stage.number? = none)
    (hnamed : c.stage.named? = none) (clock : Nat) :
    Counted a { race with
      table := race.table.change c.request.address (.hit clock)
      callers := before ++
        { c with stage := .deciding (race.table.tally c.request.address).ordinal } :: after } := by
  by_cases ha : c.isOf a
  · have hkey : a.canonical = c.request.address.canonical := (eq_of_beq ha).symm
    refine h.hit (HitTable.tally_change_self hkey) ?_ (gather_same hsplit fun _ => hnamed.symm)
      (gather_room hsplit hroom)
    rw [HitTable.tally_congr hkey]
    exact gather_new hsplit ha hnumber rfl
  · exact h.other hsplit ha _

/-- A turn that counts a match, behind which the caller tells the rule that it was named by. -/
theorem notes (h : Counted a race) (hroom : race.callers.length < UInt64.size)
    (hsplit : race.callers = before ++ c :: after) {number : UInt64}
    {result : Except EvaluationError Decision} {rule : RuleId}
    (hnumber : c.stage.number? = some number) (hnamed : c.stage.named? = none)
    (hrule : namedRule result = some rule) :
    Counted a { race with
      table := race.table.change c.request.address (.ruled rule)
      callers := before ++ { c with stage := .finished number result } :: after } := by
  by_cases ha : c.isOf a
  · have hkey : a.canonical = c.request.address.canonical := (eq_of_beq ha).symm
    exact h.ruled (HitTable.tally_change_self hkey) (gather_same hsplit fun _ => hnumber.symm)
      (gather_new hsplit ha hnamed hrule) (gather_room hsplit hroom)
  · exact h.other hsplit ha _

/-- **One turn of one caller.**  The cases are those of its moves, each of which counts a hit,
counts a match or does neither. -/
theorem moves (h : Counted a race) (hroom : race.callers.length < UInt64.size)
    (hsplit : race.callers = before ++ c :: after) (hc : c.Sound race.default race.lists)
    {table : HitTable} (hm : Caller.Moves race.default race.lists race.table c table s) :
    Counted a { race with table, callers := before ++ { c with stage := s } :: after } := by
  -- what the stage before the turn told is read off its equation
  have number : ∀ {s' : Stage}, c.stage = s' → c.stage.number? = s'.number? :=
    congrArg Stage.number?
  have named : ∀ {s' : Stage}, c.stage = s' → c.stage.named? = s'.named? :=
    congrArg Stage.named?
  cases hm with
  | counts clock hstage =>
    rcases hstage with hstage | hstage
    · exact h.counts hroom hsplit (number hstage) (named hstage) clock
    · exact h.counts hroom hsplit (number hstage) (named hstage) clock
  | misses hstage => exact h.stays hsplit (number hstage).symm (named hstage).symm
  | ends hstage hrule => exact h.stays hsplit (number hstage).symm (hrule.trans (named hstage).symm)
  | notes hstage hrule => exact h.notes hroom hsplit (number hstage) (named hstage) hrule
  | missesNote hstage _ => exact h.stays hsplit (number hstage).symm (named hstage).symm
  | noted hstage =>
    unfold Caller.Sound at hc
    rw [hstage] at hc
    exact h.notes hroom hsplit (number hstage) (named hstage) hc.2
  | rests hstage => exact h.stays hsplit (number hstage).symm (named hstage).symm

end Turns

end Counted

/-- **What holds all along a race**, whatever was asked by whom. -/
structure Kept (default : String) (lists : AccessLists) (calls : List (List Rule × Request))
    (race : Race) : Prop where
  default_eq : race.default = default
  lists_eq : race.lists = lists
  calls_eq : race.callers.map Caller.call = calls
  sound (c : Caller) : c ∈ race.callers → c.Sound default lists
  counted (a : Address) : Counted a race

namespace Kept

variable {default : String} {lists : AccessLists} {calls : List (List Rule × Request)} {race : Race}

theorem start (default : String) (lists : AccessLists) (calls : List (List Rule × Request)) :
    Kept default lists calls (Race.start default lists calls) := by
  refine ⟨rfl, rfl, ?_, ?_, Counted.start default lists calls⟩
  · rw [Race.start, List.map_map]
    exact List.map_id calls
  · intro c hc
    obtain ⟨call, -, rfl⟩ := List.mem_map.1 hc
    trivial

theorem turn (h : Kept default lists calls race) (hroom : calls.length < UInt64.size)
    (next : Turn) : Kept default lists calls (race.turn next) := by
  obtain ⟨hdefault, hlists, hcalls, hsound, hcounted⟩ := h
  cases next with
  | elapse millis =>
    exact ⟨hdefault, hlists, hcalls, hsound, fun a => (hcounted a).of_same rfl rfl rfl⟩
  | caller i =>
    rcases hc : race.callers[i]? with _ | c
    · rw [Race.turn, hc]
      exact ⟨hdefault, hlists, hcalls, hsound, hcounted⟩
    · obtain ⟨before, after, hsplit, hset⟩ := exists_split hc
      have hmem : c ∈ race.callers := List.mem_of_getElem? hc
      have hof := hsound c hmem
      rw [turn_caller hc, hset]
      subst hdefault hlists
      refine ⟨rfl, rfl, ?_, ?_, ?_⟩
      · rw [← hcalls, hsplit, List.map_append, List.map_append]
        rfl
      · intro other hother
        rcases List.mem_append.1 hother with hm | hm
        · exact hsound other (hsplit ▸ List.mem_append_left _ hm)
        · rcases List.mem_cons.1 hm with rfl | hm
          · exact (Caller.act_moves _ _ _ c).sound hof
          · exact hsound other (hsplit ▸ List.mem_append_right _ (List.mem_cons_of_mem _ hm))
      · intro a
        refine (hcounted a).moves ?_ hsplit hof (Caller.act_moves _ _ _ c)
        rw [← List.length_map Caller.call, hcalls]
        exact hroom

theorem run (hroom : calls.length < UInt64.size) : ∀ (schedule : List Turn) {race : Race},
    Kept default lists calls race → Kept default lists calls (race.run schedule)
  | [], _, h => h
  | next :: schedule, _, h => run hroom schedule (h.turn hroom next)

end Kept

end Race

/-! ## 3. Every hit once -/

namespace Race

/-- **What a client's calls leave when all is over.** -/
structure Settled (calls : List (List Rule × Request)) (a : Address) (race : Race) : Prop where
  results : (race.results a).length = visits calls a
  numbers : ((race.numbers a).map UInt64.toNat).Perm (List.range' 1 (visits calls a))
  hits : (race.table.tally a).hits.toNat = visits calls a
  matched : (race.table.tally a).matched.toNat =
    (race.results a).countP fun result => (namedRule result).isSome
  lastRule (rule : RuleId) : (race.table.tally a).lastRule = some rule →
    ∃ result ∈ race.results a, namedRule result = some rule
  noRule : (race.table.tally a).lastRule = none ↔
    ∀ result ∈ race.results a, namedRule result = none

variable {default : String} {lists : AccessLists} {calls : List (List Rule × Request)}
  {race : Race} {a : Address}

theorem named_eq (race : Race) (a : Address) :
    race.named a = (race.results a).filterMap namedRule := by
  unfold named results gather
  rw [List.filterMap_filterMap]
  refine congrArg (List.filterMap · race.callers) (funext fun c => ?_)
  by_cases ha : c.isOf a
  · rw [if_pos ha, if_pos ha]
    rfl
  · rw [if_neg ha, if_neg ha]
    rfl

/-- When all callers tell something, there is one thing for each call of the client, whoever made
it. -/
theorem gather_length {β : Type} {f : Stage → Option β}
    (hcalls : race.callers.map Caller.call = calls) (hf : ∀ c ∈ race.callers, (f c.stage).isSome) :
    (gather a f race.callers).length = visits calls a := by
  unfold gather visits
  rw [List.length_filterMap_eq_countP, ← hcalls, List.countP_map]
  refine List.countP_congr fun c hc => ?_
  show _ ↔ c.isOf a = true
  by_cases ha : c.isOf a
  · rw [if_pos ha]
    exact iff_of_true (hf c hc) ha
  · rw [if_neg ha]
    exact iff_of_false Bool.false_ne_true ha

theorem Kept.settled (h : Kept default lists calls race) (hover : race.Over) :
    Settled calls a race := by
  have hnumbered : ∀ c ∈ race.callers, c.stage.number?.isSome := by
    intro c hc
    obtain ⟨number, result, hstage⟩ := Stage.exists_finished (hover c hc)
    rw [hstage]
    rfl
  have hcount : (race.numbers a).length = visits calls a := gather_length h.calls_eq hnumbered
  have hcounted := h.counted a
  have hhits : (race.table.tally a).hits.toNat = visits calls a := by
    have hlength := hcounted.numbers.length_eq
    rw [List.length_map, List.length_range', hcount] at hlength
    exact hlength.symm
  refine ⟨gather_length h.calls_eq hover, ?_, hhits, ?_, ?_, ?_⟩
  · rw [← hhits]
    exact hcounted.numbers
  · rw [hcounted.matched, named_eq, List.length_filterMap_eq_countP]
  · intro rule hrule
    have hmem := hcounted.lastRule rule hrule
    rw [named_eq] at hmem
    exact List.mem_filterMap.1 hmem
  · rw [hcounted.noRule, named_eq, List.filterMap_eq_nil_iff]

theorem gather_map {β γ : Type} {f : Stage → Option β} {g : Stage → Option γ} {h : β → γ} :
    ∀ callers : List Caller, (∀ c ∈ callers, c.isOf a → g c.stage = (f c.stage).map h) →
      gather a g callers = (gather a f callers).map h
  | [], _ => rfl
  | c :: callers, hc => by
    have ih := gather_map callers fun d hd => hc d (List.mem_cons_of_mem _ hd)
    unfold gather at ih ⊢
    rw [List.filterMap_cons, List.filterMap_cons, ih]
    by_cases ha : c.isOf a
    · rw [if_pos ha, if_pos ha, hc c List.mem_cons_self ha]
      cases f c.stage <;> rfl
    · rw [if_neg ha, if_neg ha]

/-- Each result is what the rules decide for the number, as all else that rules see is fixed by the
call. -/
theorem Kept.results_eq (h : Kept default lists calls race) (hover : race.Over)
    {f : UInt64 → Except EvaluationError Decision}
    (hf : ∀ c ∈ race.callers, c.isOf a → ∀ number, c.result default lists number = f number) :
    race.results a = (race.numbers a).map f := by
  refine gather_map race.callers fun c hc ha => ?_
  obtain ⟨number, result, hstage⟩ := Stage.exists_finished (hover c hc)
  have hsound := h.sound c hc
  unfold Caller.Sound at hsound
  rw [hstage] at hsound ⊢
  change some result = some (f number)
  rw [hsound, hf c hc ha]

end Race

/-- Of the numbers from one to `n`, those above a limit are as many as `n` goes beyond it. -/
theorem countP_range' (limit : Nat) : ∀ n : Nat,
    (List.range' 1 n).countP (fun i => decide (limit < i)) = n - limit
  | 0 => (Nat.zero_sub limit).symm
  | n + 1 => by
    rw [List.range'_1_concat, List.countP_append, countP_range' limit n, List.countP_singleton]
    by_cases h : limit < 1 + n
    · rw [if_pos (decide_eq_true h)]
      omega
    · rw [if_neg (mt of_decide_eq_true h)]
      omega

/-- What a single rule about hits decides. -/
def hitsVerdict (default : String) (id : RuleId) (limit : UInt64) (action : String)
    (number : UInt64) : Except EvaluationError Decision :=
  if limit < number then .ok ⟨action, some id⟩ else .ok ⟨default, none⟩

theorem verdict_hitsAbove (default : String) (lists : AccessLists) (r : Request) (id : RuleId)
    (limit : UInt64) (action : String) (number : UInt64) :
    verdict default (.ofRequest r number lists) [⟨id, .hitsAbove limit, action⟩] =
      hitsVerdict default id limit action number := by
  have hvalue : Rule.value ⟨id, .hitsAbove limit, action⟩ (.ofRequest r number lists) =
      .ok (decide (limit < number)) := by
    rw [Rule.value, evaluate]
    rfl
  rw [verdict_eq, hitsVerdict]
  by_cases h : limit < number
  · rw [decide_eq_true h] at hvalue
    rw [firstMatch_cons_true hvalue, if_pos h]
    rfl
  · rw [decide_eq_false h] at hvalue
    rw [firstMatch_cons_false hvalue, if_neg h]
    rfl

namespace Race

variable {default : String} {lists : AccessLists} {calls : List (List Rule × Request)}
  {race : Race} {a : Address}

/-- **A limit lets as many hits pass as it says**, whichever they are: the schedule decides who is
above the limit, and not how many are. -/
theorem Kept.limited (h : Kept default lists calls race) (hover : race.Over) {id : RuleId}
    {limit : UInt64} {action : String}
    (hrules : ∀ call ∈ calls, call.2.address.canonical = a.canonical →
      call.1 = [⟨id, .hitsAbove limit, action⟩])
    {p : Except EvaluationError Decision → Bool} (htrue : p (.ok ⟨action, some id⟩) = true)
    (hfalse : p (.ok ⟨default, none⟩) = false) :
    (race.results a).countP p = visits calls a - limit.toNat := by
  have hresult : ∀ c ∈ race.callers, c.isOf a → ∀ number,
      c.result default lists number = hitsVerdict default id limit action number := by
    intro c hc ha number
    have hcall : c.call ∈ calls := h.calls_eq ▸ List.mem_map_of_mem hc
    have hone : c.rules = [⟨id, .hitsAbove limit, action⟩] := hrules c.call hcall (eq_of_beq ha)
    rw [Caller.result, hone, verdict_hitsAbove]
  have hp : ∀ number : UInt64, p (hitsVerdict default id limit action number) =
      decide (limit.toNat < number.toNat) := by
    intro number
    unfold hitsVerdict
    by_cases hlimit : limit < number
    · rw [if_pos hlimit, htrue, decide_eq_true (UInt64.lt_iff_toNat_lt.1 hlimit)]
    · rw [if_neg hlimit, hfalse, decide_eq_false (mt UInt64.lt_iff_toNat_lt.2 hlimit)]
  calc (race.results a).countP p
      = (race.numbers a).countP fun number => decide (limit.toNat < number.toNat) := by
        rw [h.results_eq hover hresult, List.countP_map]
        exact congrArg (List.countP · _) (funext hp)
    _ = ((race.numbers a).map UInt64.toNat).countP fun i => decide (limit.toNat < i) := by
        rw [List.countP_map]
        rfl
    _ = (List.range' 1 (visits calls a)).countP fun i => decide (limit.toNat < i) :=
        (h.settled hover).numbers.countP_eq _
    _ = visits calls a - limit.toNat := countP_range' _ _

end Race

/-- **No hit is lost, and none counts twice.**  Fewer than `2 ^ 64` calls come to an empty table, by
any rules and from any clients, and take their turns by any schedule, with any time passing between
them.  At every point the numbers that a client's hits have got are those from one to the count,
each once.  When all is over, which it is when everyone has had four turns: the client has as many
hits as calls, as many matches as calls that named a rule, and its last rule is one of those; every
call has got what the first of its rules to match decides for the number of its hit.  And by a
single rule about more hits than a limit, all calls but as many as the limit are decided, and they
alone get its action unless that is the default. -/
theorem race_counts (default : String) (lists : AccessLists) (calls : List (List Rule × Request))
    (hroom : calls.length < UInt64.size) (schedule : List Turn) :
    let race := (Race.start default lists calls).run schedule
    race.callers.map Caller.call = calls ∧
    (∀ a, ((race.numbers a).map UInt64.toNat).Perm
      (List.range' 1 (race.table.tally a).hits.toNat)) ∧
    (∀ c ∈ race.callers, ∀ number result, c.stage = .finished number result →
      FirstMatch default (.ofRequest c.request number lists) c.rules result) ∧
    ((∀ i < calls.length, 4 ≤ schedule.count (.caller i)) → race.Over) ∧
    (race.Over → ∀ a, race.Settled calls a ∧
      ∀ id limit action, (∀ call ∈ calls, call.2.address.canonical = a.canonical →
          call.1 = [⟨id, .hitsAbove limit, action⟩]) →
        (race.results a).countP (fun result => decide (namedRule result = some id)) =
          visits calls a - limit.toNat ∧
        (action ≠ default →
          (race.results a).countP (fun result => decide (namedAction result = some action)) =
            visits calls a - limit.toNat)) := by
  intro race
  have hkept : Race.Kept default lists calls race :=
    Race.Kept.run hroom schedule (.start default lists calls)
  refine ⟨hkept.calls_eq, fun a => (hkept.counted a).numbers, ?_, ?_, ?_⟩
  · intro c hc number result hstage
    have hsound := hkept.sound c hc
    unfold Caller.Sound at hsound
    rw [hstage] at hsound
    exact (firstMatch_iff _ _ _ _).2 hsound.symm
  · intro hturns
    refine Race.over_of_turns _ schedule ?_
    rw [Race.start, List.length_map]
    exact hturns
  · intro hover a
    refine ⟨hkept.settled hover, ?_⟩
    intro id limit action hrules
    refine ⟨hkept.limited hover hrules (decide_eq_true rfl) rfl, ?_⟩
    intro haction
    refine hkept.limited hover hrules (decide_eq_true rfl) (decide_eq_false ?_)
    exact fun h => haction (Option.some.inj h).symm

/-- Two calls of one client, the second by its mapped address, under a rule about more than one
hit. -/
def rivals : List (List Rule × Request) :=
  [([⟨1, .hitsAbove 1, "reject"⟩], .ofAddress (.v4 0x0A000001#32)),
    ([⟨1, .hitsAbove 1, "reject"⟩], .ofAddress (.v6 (Address.mapped 0x0A000001#32)))]

/-- Four rounds of turns of two callers. -/
def rounds : List Turn :=
  (List.replicate 4 [.caller 0, .caller 1]).flatten

/-- Two callers who both find no tally.  Both make one, both hits count, and one call is
rejected. -/
theorem race_counts_rivals :
    ((Race.start "accept" {} rivals).run (rounds.take 2)).callers.map Caller.stage =
      [.entering 0, .entering 0] ∧
    rivals.length < UInt64.size ∧ (∀ i < rivals.length, 4 ≤ rounds.count (.caller i)) ∧
    (((Race.start "accept" {} rivals).run rounds).table.tally (.v4 0x0A000001#32)).hits.toNat = 2 ∧
    (((Race.start "accept" {} rivals).run rounds).results (.v4 0x0A000001#32)).countP
      (fun result => decide (namedAction result = some "reject")) = 1 := by
  have hturns : ∀ i < rivals.length, 4 ≤ rounds.count (.caller i) := by decide
  have hvisits : visits rivals (.v4 0x0A000001#32) = 2 := rfl
  have hrules : ∀ call ∈ rivals, call.2.address.canonical = Address.canonical (.v4 0x0A000001#32) →
      call.1 = [⟨1, .hitsAbove 1, "reject"⟩] := by
    intro call hcall _
    simp only [rivals, List.mem_cons, List.not_mem_nil, or_false] at hcall
    rcases hcall with rfl | rfl
    · rfl
    · rfl
  obtain ⟨-, -, -, hover, hend⟩ := race_counts "accept" {} rivals (by decide) rounds
  obtain ⟨hsettled, hlimit⟩ := hend (hover hturns) (.v4 0x0A000001#32)
  have hrejected := (hlimit 1 1 "reject" hrules).2 (by decide)
  refine ⟨rfl, by decide, hturns, ?_, ?_⟩
  · rw [hsettled.hits, hvisits]
  · rw [hrejected, hvisits]
    rfl

end Turnstile
