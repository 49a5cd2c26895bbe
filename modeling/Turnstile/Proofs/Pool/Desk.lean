/-
# Desks are seen of lobbies

In a `Lobby` callers come, wait, look, give up and give back in any order, and notifications
reach them some time later.  A `Desk` is what is seen of that if nothing is left half done: a
caller that has to wait and may not gives up at once, and behind a return everyone looks whose
turn has come.

**Whatever a desk does, some lobby does step by step** (`Desk.Reached.lobby`), so what holds of the
pool in every lobby that can be reached holds of the pool of every desk.  The one operation of a
desk that is more than a few steps is `Pool.settle`, which deals out what is idle in the order of
the line (`Pool.settle_eq`); it is the run in which those who wait look in that order, and each of
them is granted a parser (`Lobby.settle_runs`).

Two things follow.  **A desk never gives one parser to two callers** (`Desk.Reached.room`): those
who hold one by name and the idle ones are no more than were made.  And **a desk is never left
with an idle parser and a line** (`Desk.Reached.quiet`), as a lobby may be while a notification
is on its way.
-/
import Turnstile.Pool.Desk
import Turnstile.Proofs.Pool.Schedule

namespace Turnstile

open Turnstile.Parser (Workspace)

/-! ## 1. Dealing out -/

namespace Pool

/-- **Who is served, and with what**: the first in line with the parser that came back last, the
second with the one before, and so on until one of the two is used up.  The rest of both stays in
its order. -/
theorem settle_eq (p : Pool) : p.settle = (p.waiting.zip p.idle,
    { p with
      idle := p.idle.drop p.waiting.length
      waiting := p.waiting.drop p.idle.length }) := by
  have hserve : ∀ (idle : List Workspace) (waiting : List Ticket), serve idle waiting =
      (waiting.zip idle, idle.drop waiting.length, waiting.drop idle.length) := by
    intro idle
    induction idle with
    | nil =>
      intro waiting
      cases waiting <;> rfl
    | cons w idle ih =>
      rintro (_ | ⟨ticket, waiting⟩)
      · rfl
      · rw [serve, ih waiting]
        rfl
  rw [settle, hserve]

/-- Without a line, or with nothing idle, nobody is served, and the pool stays as it is. -/
theorem settle_of_nil {p : Pool} (h : p.idle = [] ∨ p.waiting = []) : p.settle = ([], p) := by
  obtain ⟨capacity, idle, created, waiting, nextTicket, pos⟩ := p
  rw [settle_eq]
  rcases h with h | h
  · obtain rfl : idle = [] := h
    simp
  · obtain rfl : waiting = [] := h
    simp

/-- The first in line is served before the others, which is one look of a waiting caller. -/
theorem settle_of_cons {p : Pool} {ticket : Ticket} {waiting : List Ticket} {w : Workspace}
    {idle : List Workspace} (hw : p.waiting = ticket :: waiting) (hi : p.idle = w :: idle) :
    p.settle = ((ticket, w) :: (settle { p with waiting, idle }).1,
      (settle { p with waiting, idle }).2) := by
  simp [settle_eq, hw, hi]

/-- **Behind that there is not both**, something idle and a line: whichever is shorter is used
up. -/
theorem settle_quiet (p : Pool) : p.settle.2.idle = [] ∨ p.settle.2.waiting = [] := by
  rw [settle_eq]
  rcases Nat.le_total p.idle.length p.waiting.length with h | h
  · exact .inl (List.drop_eq_nil_of_le h)
  · exact .inr (List.drop_eq_nil_of_le h)

end Pool

namespace Lobby

/-- Steps one after the other, with what comes of each. -/
inductive Runs (timed : Bool) : Lobby → List (Act × Outcome) → Lobby → Prop
  | nil (s : Lobby) : Runs timed s [] s
  | cons {s s' s'' : Lobby} {act : Act} {outcome : Outcome} {rest : List (Act × Outcome)} :
      s.step timed act = some (outcome, s') → Runs timed s' rest s'' →
      Runs timed s ((act, outcome) :: rest) s''

variable {capacity : Nat} {timed : Bool} {s s' : Lobby}

theorem Reachable.runs {steps : List (Act × Outcome)} (hr : Reachable capacity timed s)
    (h : s.Runs timed steps s') : Reachable capacity timed s' := by
  induction h with
  | nil => exact hr
  | cons hstep _ ih => exact ih (hr.step hstep)

/-- **To deal out is a run of looks.**  Those who are served look in the order of the line, each of
them is granted a parser, and the pool is left as it is dealt out. -/
theorem settle_runs (timed : Bool) (hs : s.stock.length = s.pool.idle.length) :
    ∃ steps s', s.Runs timed steps s' ∧
      steps.map Prod.fst = s.pool.settle.1.map (fun served => .look served.1) ∧
      (∀ step ∈ steps, ∃ serial, step.2 = .granted serial) ∧
      s'.pool = s.pool.settle.2 ∧
      s'.held.length = s.held.length + s.pool.settle.1.length := by
  induction hw : s.pool.waiting generalizing s with
  | nil =>
    rw [Pool.settle_of_nil (.inr hw)]
    exact ⟨[], s, .nil s, rfl, by simp, rfl, rfl⟩
  | cons ticket waiting ih =>
    rcases hi : s.pool.idle with _ | ⟨w, idle⟩
    · rw [Pool.settle_of_nil (.inl hi)]
      exact ⟨[], s, .nil s, rfl, by simp, rfl, rfl⟩
    · obtain ⟨serial, s₁, hstep, hpool, hheld, hs₁⟩ := look_first timed hs hw hi
      obtain ⟨steps, s', hruns, hacts, hgranted, hpool', hheld'⟩ := ih hs₁ (by rw [hpool])
      rw [hpool] at hacts hpool' hheld'
      rw [Pool.settle_of_cons hw hi]
      refine ⟨(.look ticket, .granted serial) :: steps, s', .cons hstep hruns, ?_, ?_, hpool', ?_⟩
      · rw [List.map_cons, List.map_cons, hacts]
      · exact List.forall_mem_cons.2 ⟨⟨serial, rfl⟩, hgranted⟩
      · rw [hheld', hheld, List.length_cons, List.length_cons]
        exact Nat.add_right_comm _ 1 _

end Lobby

/-! ## 2. Steps of a lobby, as a desk sees them -/

namespace Lobby

variable {capacity : Nat} {timed : Bool} {s : Lobby}

/-- Whoever arrives leaves the pool as it answers.  With a parser there is one holder more, and
without one the line has a place more. -/
theorem enter_shows (s : Lobby) : s.enter.2.pool = s.pool.arrive.2 ∧ match s.pool.arrive.1 with
    | .granted _ => ∃ serial, s.enter.2.held = serial :: s.held
    | .queued ticket => s.enter.2.held = s.held ∧ ticket ∈ s.enter.2.pool.waiting := by
  rcases harrive : s.pool.arrive with ⟨arrival, pool⟩
  rw [enter, harrive]
  cases arrival with
  | granted w =>
    cases s.stock with
    | nil => exact ⟨rfl, _, rfl⟩
    | cons serial stock => exact ⟨rfl, serial, rfl⟩
  | queued ticket =>
    obtain ⟨-, w, idle, -, ha⟩ | ⟨-, -, -, ha⟩ | ⟨-, ha⟩ := s.pool.arrive_cases
    · cases harrive.symm.trans ha
    · cases harrive.symm.trans ha
    · cases harrive.symm.trans ha
      exact ⟨rfl, rfl, List.mem_append_right _ List.mem_cons_self⟩

/-- Whoever has waited long enough leaves the pool as it answers, and takes no parser from its
holder. -/
theorem leave_shows (s : Lobby) (ticket : Ticket) :
    (s.leave ticket).2.pool = (s.pool.expire ticket).2 ∧
    s.held.length ≤ (s.leave ticket).2.held.length := by
  rw [leave, Pool.expire]
  by_cases ht : s.pool.isTurn ticket = true
  · rw [if_pos ht, if_pos ht, take]
    rcases s.pool.takeTurn with ⟨_ | w, pool⟩
    · exact ⟨rfl, Nat.le_refl _⟩
    · cases s.stock with
      | nil => exact ⟨rfl, Nat.le_refl _⟩
      | cons serial stock => exact ⟨rfl, Nat.le_succ _⟩
  · rw [if_neg ht, if_neg ht]
    exact ⟨rfl, Nat.le_refl _⟩

/-- A caller that comes and gives back at once what it gets.  Two steps of a lobby, in between which
nobody else does anything. -/
theorem Reachable.borrow (hr : Reachable capacity timed s) (w : Workspace)
    (ha : ∃ w₀, s.pool.arrive.1 = .granted w₀) :
    ∃ s', Reachable capacity timed s' ∧ s'.pool = s.pool.arrive.2.release w ∧
      s'.held = s.held := by
  obtain ⟨w₀, ha⟩ := ha
  obtain ⟨hpool, hheld⟩ := enter_shows s
  rw [ha] at hheld
  obtain ⟨serial, hheld⟩ := hheld
  have harrive : s.step timed .arrive = some (s.enter.1, s.enter.2) := rfl
  have hback : s.enter.2.step timed (.release serial w) =
      some (.done, s.enter.2.giveBack serial w) :=
    if_pos (hheld ▸ List.mem_cons_self)
  refine ⟨_, (hr.step harrive).step hback, ?_, ?_⟩
  · rw [giveBack, hpool]
  · rw [giveBack, hheld, List.erase_cons_head]

/-- A caller that comes and finds nothing.  It waits, or gives up at once if it may; without
patience the second is not open to it. -/
theorem Reachable.wait (hr : Reachable capacity timed s) {ticket : Ticket}
    (ha : s.pool.arrive.1 = .queued ticket) :
    (∃ s', Reachable capacity timed s' ∧ s'.pool = s.pool.arrive.2 ∧ s'.held = s.held) ∧
    (timed = true → ∃ s', Reachable capacity timed s' ∧
      s'.pool = (s.pool.arrive.2.expire ticket).2 ∧ s.held.length ≤ s'.held.length) := by
  obtain ⟨hpool, hheld⟩ := enter_shows s
  rw [ha] at hheld
  obtain ⟨hheld, hmem⟩ := hheld
  have harrive : s.step timed .arrive = some (s.enter.1, s.enter.2) := rfl
  refine ⟨⟨_, hr.step harrive, hpool, hheld⟩, fun htimed => ?_⟩
  obtain ⟨hleft, hlength⟩ := leave_shows s.enter.2 ticket
  have hleave : s.enter.2.step timed (.expire ticket) =
      some ((s.enter.2.leave ticket).1, (s.enter.2.leave ticket).2) :=
    if_pos ⟨htimed, hmem⟩
  exact ⟨_, (hr.step harrive).step hleave, hpool ▸ hleft, hheld ▸ hlength⟩

end Lobby

/-! ## 3. Names -/

namespace Dictionary

variable {κ α : Type} [DecidableEq κ]

theorem size_insert_le (d : Dictionary κ α) (k : κ) (v : α) : (d.insert k v).size ≤ d.size + 1 := by
  rw [size_insert]
  split
  · exact Nat.le_succ _
  · exact Nat.le_refl _

theorem size_insertAll_le (d : Dictionary κ α) (es : List (κ × α)) :
    (d.insertAll es).size ≤ d.size + es.length := by
  induction es generalizing d with
  | nil => exact Nat.le_refl _
  | cons e es ih =>
    calc ((d.insert e.1 e.2).insertAll es).size
        ≤ (d.insert e.1 e.2).size + es.length := ih _
      _ ≤ d.size + 1 + es.length := Nat.add_le_add_right (size_insert_le d e.1 e.2) _
      _ = d.size + (e :: es).length := by rw [List.length_cons, Nat.add_assoc, Nat.add_comm 1]

/-- A key that is taken out is one entry less at least, which is what is needed of a holder that
gives its parser back. -/
theorem size_filter_ne_lt {d : Dictionary κ α} {k : κ} {v : α} (h : d.get? k = some v) :
    (d.filter fun other _ => other != k).size < d.size := by
  have hk : k ∈ d.entries.map Prod.fst :=
    (lookup_isSome_iff k d.entries).1 (Option.isSome_of_eq_some h)
  obtain ⟨e, he, hfst⟩ := List.mem_map.1 hk
  have hgone : 0 < d.failing fun other _ => other != k :=
    List.countP_pos_iff.2 ⟨e, he, by simp [hfst]⟩
  have hsize := d.failing_add_size_filter fun other _ => other != k
  omega

end Dictionary

/-! ## 4. Desks -/

namespace Desk

/-- Desks that operations lead to. -/
inductive Reached (capacity : Nat) (patience : Option Duration) : Desk → Prop
  | new : Reached capacity patience (.new capacity patience)
  | acquire {d : Desk} (name : String) :
      Reached capacity patience d → Reached capacity patience (d.acquire name).2
  | release {d : Desk} (name : String) :
      Reached capacity patience d → Reached capacity patience (d.release name).2
  | parse {d : Desk} (name : String) (id : RuleId) (text : String) :
      Reached capacity patience d → Reached capacity patience (d.parse name id text).2
  | newRule {d : Desk} (id : RuleId) (text : String) :
      Reached capacity patience d → Reached capacity patience (d.newRule id text).2

/-- A lobby with the pool of a desk, in which whoever holds a parser by name does hold one. -/
structure Shows (d : Desk) (s : Lobby) : Prop where
  pool : s.pool = d.gate.pool
  held : d.holders.size ≤ s.held.length

variable {capacity : Nat} {patience : Option Duration} {d d' : Desk} {s : Lobby}

/-- **What an operation of a desk has to keep**: from a lobby that shows the desk others can be
reached that show it behind the operation, and the patience of the gate is the same. -/
structure Follows (capacity : Nat) (d d' : Desk) : Prop where
  patience : d'.gate.patience = d.gate.patience
  shows {s : Lobby} : s.Reachable capacity d.gate.patience.isSome → d.Shows s →
    ∃ s', s'.Reachable capacity d.gate.patience.isSome ∧ d'.Shows s'

theorem Follows.refl (d : Desk) : Follows capacity d d :=
  ⟨rfl, fun hr h => ⟨_, hr, h⟩⟩

theorem Follows.trans {d'' : Desk} (h : Follows capacity d d') (h' : Follows capacity d' d'') :
    Follows capacity d d'' := by
  refine ⟨h'.patience.trans h.patience, fun {s} hr hs => ?_⟩
  obtain ⟨s', hr', hs'⟩ := h.shows hr hs
  rw [← h.patience] at hr' ⊢
  exact h'.shows hr' hs'

/-- A caller that finds nothing stays in the line, or gives up at once if the gate has a
patience. -/
theorem queued_follows {ticket : Ticket} {pool : Pool}
    (harrive : d.gate.pool.arrive = (.queued ticket, pool))
    (hpatience : d'.gate.patience = d.gate.patience) (hholders : d'.holders = d.holders)
    (hpool : d'.gate.pool = pool ∨
      d.gate.patience.isSome ∧ d'.gate.pool = (pool.expire ticket).2) :
    Follows capacity d d' := by
  refine ⟨hpatience, fun {s} hr h => ?_⟩
  rw [← h.pool] at harrive
  obtain ⟨hstay, hleave⟩ := hr.wait (congrArg Prod.fst harrive)
  rcases hpool with hpool | ⟨hp, hpool⟩
  · obtain ⟨s', hr', hs', hheld⟩ := hstay
    refine ⟨s', hr', ?_, ?_⟩
    · rw [hs', harrive, hpool]
    · rw [hholders, hheld]
      exact h.held
  · obtain ⟨s', hr', hs', hheld⟩ := hleave hp
    refine ⟨s', hr', ?_, ?_⟩
    · rw [hs', harrive, hpool]
    · rw [hholders]
      exact Nat.le_trans h.held hheld

/-- A caller that asks by name is granted a parser, or waits, or gives up at once.  A name that asks
twice is known for the last parser only, so holders by name may be fewer than those of the lobby. -/
theorem acquire_follows (d : Desk) (name : String) : Follows capacity d (d.acquire name).2 := by
  unfold acquire
  rcases harrive : d.gate.pool.arrive with ⟨w | ticket, pool⟩
  · refine ⟨rfl, fun {s} hr h => ?_⟩
    obtain ⟨hpool, hheld⟩ := s.enter_shows
    rw [h.pool, harrive] at hpool hheld
    obtain ⟨serial, hheld⟩ := hheld
    have hstep : s.step d.gate.patience.isSome .arrive = some (s.enter.1, s.enter.2) := rfl
    refine ⟨_, hr.step hstep, hpool, ?_⟩
    rw [hheld]
    exact Nat.le_trans (Dictionary.size_insert_le _ _ _) (Nat.succ_le_succ h.held)
  · cases hp : d.gate.patience with
    | none => exact queued_follows harrive rfl rfl (.inl rfl)
    | some patience => exact queued_follows harrive rfl rfl (.inr ⟨by rw [hp]; rfl, rfl⟩)

/-- Not everyone who is served needs to be known by name, so the holders grow by no more than the
number of those who are served. -/
theorem holders_settle_le (d : Desk) :
    d.settle.2.holders.size ≤ d.holders.size + d.gate.pool.settle.1.length :=
  Nat.le_trans (Dictionary.size_insertAll_le _ _)
    (Nat.add_le_add_left (List.length_filterMap_le _ _) _)

/-- A return is one of the lobby, behind which those look whose turn has come.  A name that holds
nothing gives nothing back. -/
theorem release_follows (d : Desk) (name : String) : Follows capacity d (d.release name).2 := by
  unfold release
  cases hw : d.holders.get? name with
  | none => exact .refl d
  | some w =>
    refine ⟨rfl, fun {s} hr h => ?_⟩
    have hfewer := Nat.lt_of_lt_of_le (Dictionary.size_filter_ne_lt hw) h.held
    -- a lobby does not know names, and any parser that is held may be the one that comes back
    obtain ⟨serial, held, hheld⟩ := List.exists_cons_of_length_pos (Nat.zero_lt_of_lt hfewer)
    have hback : s.step d.gate.patience.isSome (.release serial w) =
        some (.done, s.giveBack serial w) :=
      if_pos (hheld ▸ List.mem_cons_self)
    have hr₁ := hr.step hback
    obtain ⟨steps, s', hruns, -, -, hpool, hlength⟩ :=
      (s.giveBack serial w).settle_runs d.gate.patience.isSome hr₁.sound.stocked
    have hgiven : (s.giveBack serial w).held.length + 1 = s.held.length := by
      rw [Lobby.giveBack, hheld, List.erase_cons_head, List.length_cons]
    have hsame : (s.giveBack serial w).pool = d.gate.pool.release w := by
      rw [Lobby.giveBack, h.pool]
    rw [hsame] at hpool hlength
    rw [← hgiven] at hfewer
    refine ⟨s', hr₁.runs hruns, hpool, ?_⟩
    refine Nat.le_trans (holders_settle_le _) ?_
    rw [hlength]
    exact Nat.add_le_add_right (Nat.le_of_lt_succ hfewer) _

/-- A rule that is parsed at a desk changes no more than the workspace of its holder; the pool is
not asked. -/
theorem parse_follows (d : Desk) (name : String) (id : RuleId) (text : String) :
    Follows capacity d (d.parse name id text).2 := by
  unfold parse
  cases hw : d.holders.get? name with
  | none => exact .refl d
  | some w =>
    refine ⟨rfl, fun {s} hr h => ⟨s, hr, h.pool, ?_⟩⟩
    have hcontains : d.holders.contains name := Option.isSome_of_eq_some hw
    rw [Dictionary.size_insert, if_pos hcontains]
    exact h.held

/-- A rule that is parsed through the gate takes a caller who comes and gives back at once, or who
finds nothing. -/
theorem newRule_follows (d : Desk) (id : RuleId) (text : String) :
    Follows capacity d (d.newRule id text).2 := by
  unfold newRule Gate.newRule Gate.acquire
  rcases harrive : d.gate.pool.arrive with ⟨w | ticket, pool⟩
  · refine ⟨rfl, fun {s} hr h => ?_⟩
    have hgranted : s.pool.arrive = (.granted w, pool) := h.pool ▸ harrive
    obtain ⟨s', hr', hpool, hheld⟩ :=
      hr.borrow (w.parse id text).2 ⟨w, congrArg Prod.fst hgranted⟩
    rw [hgranted] at hpool
    exact ⟨s', hr', hpool, hheld ▸ h.held⟩
  · cases hp : d.gate.patience with
    | none => exact queued_follows harrive hp.symm rfl (.inl rfl)
    | some patience => exact queued_follows harrive hp.symm rfl (.inr ⟨by rw [hp]; rfl, rfl⟩)

namespace Reached

theorem follows (h : Reached capacity patience d) :
    Follows capacity (.new capacity patience) d := by
  induction h with
  | new => exact .refl _
  | acquire name _ ih => exact ih.trans (acquire_follows _ name)
  | release name _ ih => exact ih.trans (release_follows _ name)
  | parse name id text _ ih => exact ih.trans (parse_follows _ name id text)
  | newRule id text _ ih => exact ih.trans (newRule_follows _ id text)

/-- **Every desk is seen of a lobby.**  Whatever callers do by name, there are steps of callers
that lead a lobby to the same pool, in which as many hold a parser as do by name. -/
theorem lobby (h : Reached capacity patience d) :
    ∃ s, Lobby.Reachable capacity patience.isSome s ∧ d.Shows s :=
  h.follows.shows .start ⟨rfl, Nat.le_refl _⟩

/-- **No parser is given to two callers**: those who hold one by name and the idle ones are among
those that were made, and these are no more than the pool may have. -/
theorem room (h : Reached capacity patience d) :
    d.gate.pool.idle.length + d.holders.size ≤ d.gate.pool.created ∧
    d.gate.pool.created ≤ max capacity 1 := by
  obtain ⟨s, hr, hshows⟩ := h.lobby
  have hs := hr.sound
  have hlength := hs.serials.length_eq
  rw [List.length_append, List.length_range, hs.stocked, hshows.pool] at hlength
  refine ⟨?_, ?_⟩
  · rw [← hlength]
    exact Nat.add_le_add_left hshows.held _
  · rw [← hr.capacity_eq, ← hshows.pool]
    exact hs.created_le

end Reached

/-! ## 5. Between two operations -/

/-- Not both a parser that is idle and someone who waits. -/
def Quiet (p : Pool) : Prop :=
  p.idle = [] ∨ p.waiting = []

/-- Without an idle parser nobody is in turn, so a caller that gives up changes the line alone and
is granted nothing at the last moment. -/
theorem idle_expire {p : Pool} (h : p.idle = []) (ticket : Ticket) :
    (p.expire ticket).2.idle = [] := by
  have ht : ¬p.isTurn ticket = true := by
    intro ht
    obtain ⟨-, w, idle, -, hi⟩ := (p.isTurn_iff ticket).1 ht
    rw [h] at hi
    cases hi
  rw [Pool.expire, if_neg ht]
  exact h

/-- A caller that is granted a parser has found no line, so there is none behind it either. -/
theorem waiting_of_granted {p p' : Pool} {w : Workspace} (ha : p.arrive = (.granted w, p')) :
    p'.waiting = [] := by
  obtain ⟨hw, v, idle, -, h⟩ | ⟨hw, -, -, h⟩ | ⟨-, h⟩ := p.arrive_cases
  · cases ha.symm.trans h
    exact hw
  · cases ha.symm.trans h
    exact hw
  · cases ha.symm.trans h

/-- Whoever is queued at a quiet pool leaves it quiet, both if it stays in the line and if it gives
up at once.  So a desk may answer without a look at those who wait. -/
theorem Quiet.queued {p p' : Pool} {ticket : Ticket} (hq : Quiet p)
    (ha : p.arrive = (.queued ticket, p')) : Quiet p' ∧ Quiet (p'.expire ticket).2 := by
  have hidle : p'.idle = [] := by
    obtain ⟨-, v, idle, -, h⟩ | ⟨-, -, -, h⟩ | ⟨hfull, h⟩ := p.arrive_cases
    · cases ha.symm.trans h
    · cases ha.symm.trans h
    · cases ha.symm.trans h
      exact hq.elim id fun hw => (hfull hw).1
  exact ⟨.inl hidle, .inl (idle_expire hidle ticket)⟩

/-- **No desk is left with an idle parser and a line.**  In a lobby this may be so for a while,
until those who wait have been notified. -/
theorem Reached.quiet (h : Reached capacity patience d) : Quiet d.gate.pool := by
  induction h with
  | new => exact .inl rfl
  | @acquire d name _ ih =>
    unfold Desk.acquire
    rcases harrive : d.gate.pool.arrive with ⟨w | ticket, pool⟩
    · have hline := waiting_of_granted harrive
      exact .inr hline
    · have hqueued := ih.queued harrive
      cases d.gate.patience with
      | none => exact hqueued.1
      | some patience => exact hqueued.2
  | @release d name _ ih =>
    unfold Desk.release
    cases hw : d.holders.get? name with
    | none => exact ih
    | some w => exact Pool.settle_quiet _
  | @parse d name id text _ ih =>
    unfold Desk.parse
    cases hw : d.holders.get? name with
    | none => exact ih
    | some w => exact ih
  | @newRule d id text _ ih =>
    unfold Desk.newRule Gate.newRule Gate.acquire
    rcases harrive : d.gate.pool.arrive with ⟨w | ticket, pool⟩
    · have hline := waiting_of_granted harrive
      exact .inr hline
    · have hqueued := ih.queued harrive
      cases d.gate.patience with
      | none => exact hqueued.1
      | some patience => exact hqueued.2

end Desk

end Turnstile
