/-
# Sweeps at intervals

A `Sweeper` says when sweeps are due and how many it makes up for, and `Gate.sweepOnTime` is one of
these sweeps.  Here both are put together: a gate is tended if the sweeper runs whenever time has
passed (`Gate.tend`), with any other calls in between (`Gate.Tended`).

**The sweeps of a sweeper are calls of the gate** (`Gate.tend_run`, `Gate.Tended.run`), so what
holds of every run of calls holds of gates that are tended.

**When a sweeper is due does not depend on how often it is asked.**  Behind its work it is due later
than now, and in an interval at the latest (`Sweeper.Ahead`).  A sweeper that runs far too late
sweeps once (`Sweeper.catchUp_late`); one that is a little late sweeps as often as it was due
(`Sweeper.catchUp_punctual`), which changes no more than one sweep does, since they all happen at
one instant (`Gate.tend_eq`).

**No client is kept much longer than it may be idle** (`Gate.Tended.kept`).  A sweep removes those
who have been idle for the time given, and less than an interval passes until the next one; so a
client that is still there has been idle for less than both together.
-/
import Turnstile.Proofs.Decision.FirstMatch
import Turnstile.Sweeper

namespace Turnstile

/-! ## 1. When a sweeper runs -/

namespace Sweeper

variable {s : Sweeper}

theorem catchUp_of_lt (h : s.now < s.due) : s.catchUp = (0, s) := by
  rw [catchUp, if_neg (Nat.not_le_of_lt h)]

theorem catchUp_of_le (h : s.due ≤ s.now) : s.catchUp =
    ((catchUp { s with due := s.next }).1 + 1, (catchUp { s with due := s.next }).2) := by
  rw [catchUp, if_pos h]

/-- It runs if it is due, and only then.  How often is said below, for a little late and for far too
late. -/
theorem catchUp_eq_zero_iff : s.catchUp.1 = 0 ↔ s.now < s.due := by
  by_cases h : s.due ≤ s.now
  · rw [catchUp_of_le h]
    exact iff_of_false (Nat.succ_ne_zero _) (Nat.not_lt_of_le h)
  · rw [catchUp_of_lt (Nat.lt_of_not_le h)]
    exact iff_of_true rfl (Nat.lt_of_not_le h)

/-- **Far too late**: one sweep, and the next one an interval from now.  What was missed is not made
up for. -/
theorem catchUp_late (h : s.due + grace < s.now) :
    s.catchUp = (1, { s with due := s.now + s.interval }) := by
  have hnext : s.next = s.now + s.interval := if_pos h
  have hahead : s.now < s.now + s.interval := Nat.lt_add_of_pos_right s.interval_pos
  rw [catchUp_of_le (Nat.le_trans (Nat.le_add_right _ _) (Nat.le_of_lt h)), hnext,
    catchUp_of_lt hahead]

/-- **In time, or a little late**: a sweep for every time it was due, and the times it is due stay
whole intervals apart.  By induction on the sweeps, all of which are a little late at most. -/
theorem catchUp_punctual (hdue : s.due ≤ s.now) (hgrace : s.now ≤ s.due + grace) :
    s.catchUp = ((s.now - s.due) / s.interval + 1,
      { s with due := s.due + ((s.now - s.due) / s.interval + 1) * s.interval }) := by
  induction s using catchUp.induct with
  | case2 s h => exact absurd hdue h
  | case1 s h _ _ _ ih =>
    have hnext : s.next = s.due + s.interval := if_neg (Nat.not_lt_of_le hgrace)
    rw [catchUp_of_le h]
    -- the next time is later, so the sweep for it is no more than a little late either
    by_cases hmore : s.next ≤ s.now
    · have hcount : (s.now - s.due) / s.interval = (s.now - s.next) / s.interval + 1 := by
        rw [Nat.div_eq_sub_div s.interval_pos (by omega), Nat.sub_sub, hnext]
      have hdue' : s.next + ((s.now - s.next) / s.interval + 1) * s.interval =
          s.due + ((s.now - s.next) / s.interval + 1 + 1) * s.interval := by
        rw [Nat.add_one_mul (_ + 1), hnext, Nat.add_assoc, Nat.add_comm s.interval]
      rw [ih hmore (by simp only; omega), hcount]
      simp only [hdue']
    · have hcount : (s.now - s.due) / s.interval = 0 := Nat.div_eq_of_lt (by omega)
      rw [catchUp_of_lt (Nat.lt_of_not_le hmore), hcount, hnext, Nat.zero_add, Nat.one_mul]

/-- **A sweeper behind its work** is due later than now, and in an interval at the latest. -/
structure Ahead (s : Sweeper) : Prop where
  now_lt : s.now < s.due
  due_le : s.due ≤ s.now + s.interval

theorem start_ahead (interval : Nat) : (start interval).Ahead where
  now_lt := Nat.le_max_right interval 1
  due_le := Nat.le_of_eq (Nat.zero_add _).symm

/-- To run changes nothing but when the sweeper is due: the clock has advanced before, and the
interval is fixed. -/
theorem catchUp_frame (s : Sweeper) :
    s.catchUp.2.now = s.now ∧ s.catchUp.2.interval = s.interval := by
  induction s using catchUp.induct with
  | case1 s h _ _ _ ih =>
    rw [catchUp_of_le h]
    exact ih
  | case2 s h =>
    rw [catchUp_of_lt (Nat.lt_of_not_le h)]
    exact ⟨rfl, rfl⟩

theorem catchUp_ahead (h : s.due ≤ s.now + s.interval) : s.catchUp.2.Ahead := by
  induction s using catchUp.induct with
  | case1 s hdue _ _ _ ih =>
    have hnext : s.next ≤ s.now + s.interval := by
      unfold next
      split <;> omega
    rw [catchUp_of_le hdue]
    exact ih hnext
  | case2 s hdue =>
    have hlt : s.now < s.due := Nat.lt_of_not_le hdue
    rw [catchUp_of_lt hlt]
    exact ⟨hlt, h⟩

theorem advance_frame (s : Sweeper) (millis : Nat) :
    (s.advance millis).2.now = s.now + millis ∧ (s.advance millis).2.interval = s.interval :=
  catchUp_frame _

/-- **However much time passes in one go, the sweeper is ahead of it again** when it has run. -/
theorem Ahead.advance (h : s.Ahead) (millis : Nat) : (s.advance millis).2.Ahead :=
  catchUp_ahead (Nat.le_trans h.due_le (by simp only; omega))

end Sweeper

/-! ## 2. A sweep behind a sweep -/

theorem Dictionary.filter_again {κ α : Type} (d : Dictionary κ α) (p : κ → α → Bool) :
    (d.filter p).filter p = d.filter p := by
  simp only [filter, List.filter_filter, Bool.and_self]

/-- What a sweep leaves would stay in a second one, as no time passes between the two. -/
theorem HitTable.sweep_again (t : HitTable) (idle : Duration) :
    ((t.sweep idle).2.sweep idle).2 = (t.sweep idle).2 :=
  congrArg (HitTable.mk t.clock)
    (t.tallies.filter_again fun _ tally => t.clock - tally.lastHit < idle.millis)

namespace Gate

variable (g : Gate) (idle : Duration)

theorem sweepOnTime_again : (g.sweepOnTime idle).sweepOnTime idle = g.sweepOnTime idle := by
  have htable := g.table.sweep_again idle
  simp only [sweepOnTime, sweep, measure, htable, Option.map_map]
  rfl

/-- At one instant many sweeps are as good as one, so it does not matter how many a sweeper makes up
for. -/
theorem repeat_sweepOnTime : ∀ times : Nat,
    (times + 1).repeat (·.sweepOnTime idle) g = g.sweepOnTime idle
  | 0 => rfl
  | times + 1 => by
    rw [Nat.repeat, repeat_sweepOnTime times]
    exact g.sweepOnTime_again idle

/-- Sweeps that are made up for are calls of the gate, one after the other. -/
theorem repeat_run : ∀ times : Nat, times.repeat (·.sweepOnTime idle) g =
    (g.run (List.replicate times (.sweepOnTime idle))).2
  | 0 => rfl
  | times + 1 => by
    rw [List.replicate_succ', run_append, ← repeat_run times]
    rfl

/-! ## 3. A gate that is tended -/

/-- Lets time pass, and the sweeper run behind it. -/
def tend (s : Sweeper) (millis : Nat) : Gate × Sweeper :=
  ((s.advance millis).1.repeat (·.sweepOnTime idle) (g.elapse millis), (s.advance millis).2)

variable {g idle}

/-- **What a sweeper does are calls of the gate**, so the laws of runs need none of their own for
sweepers. -/
theorem tend_run (s : Sweeper) (millis : Nat) : (g.tend idle s millis).1 =
    (g.run (.elapse millis :: List.replicate (s.advance millis).1 (.sweepOnTime idle))).2 :=
  (g.elapse millis).repeat_run idle _

/-- **Time passes, and there is a sweep if the sweeper is due.**  Whether it makes up for more than
one makes no difference. -/
theorem tend_eq (s : Sweeper) (millis : Nat) : (g.tend idle s millis).1 =
    if s.now + millis < s.due then g.elapse millis else (g.elapse millis).sweepOnTime idle := by
  have hzero : (s.advance millis).1 = 0 ↔ s.now + millis < s.due := Sweeper.catchUp_eq_zero_iff
  rw [tend]
  by_cases h : s.now + millis < s.due
  · rw [if_pos h, hzero.2 h]
    rfl
  · obtain ⟨times, htimes⟩ := Nat.exists_eq_succ_of_ne_zero (mt hzero.1 h)
    rw [if_neg h, htimes]
    exact (g.elapse millis).repeat_sweepOnTime idle times

/-- What calls lead to if a sweeper tends the gate whenever time passes. -/
inductive Tended (idle : Duration) (interval : Nat) (g₀ : Gate) : Gate → Sweeper → Prop
  | start : Tended idle interval g₀ g₀ (.start interval)
  | call {g : Gate} {s : Sweeper} (c : Call) (hc : ∀ millis, c ≠ .elapse millis) :
      Tended idle interval g₀ g s → Tended idle interval g₀ (g.perform c).2 s
  | tend {g : Gate} {s : Sweeper} (millis : Nat) :
      Tended idle interval g₀ g s →
      Tended idle interval g₀ (g.tend idle s millis).1 (g.tend idle s millis).2

end Gate

/-! ## 4. How long clients are kept -/

namespace HitTable

/-- Every client has come in the last so many milliseconds. -/
def Recent (t : HitTable) (most : Nat) : Prop :=
  ∀ key tally, t.tallies.get? key = some tally → t.clock - tally.lastHit ≤ most

namespace Recent

variable {t : HitTable} {most : Nat}

theorem mono {most' : Nat} (h : t.Recent most) (hle : most ≤ most') : t.Recent most' :=
  fun key tally hk => Nat.le_trans (h key tally hk) hle

theorem elapse (h : t.Recent most) (millis : Nat) : (t.elapse millis).Recent (most + millis) := by
  intro key tally hk
  have hold := h key tally hk
  simp only [HitTable.elapse]
  omega

theorem sweep (h : t.Recent most) (idle : Duration) : (t.sweep idle).2.Recent most := by
  intro key tally hk
  rw [HitTable.sweep, Dictionary.get?_filter, Option.filter_eq_some_iff] at hk
  exact h key tally hk.1

end Recent

/-- A sweep leaves those who have been idle for less than its time, whatever was in the table. -/
theorem recent_sweep (t : HitTable) (idle : Duration) : (t.sweep idle).2.Recent idle.millis := by
  intro key tally hk
  rw [HitTable.sweep, Dictionary.get?_filter, Option.filter_eq_some_iff] at hk
  exact Nat.le_of_lt (of_decide_eq_true hk.2)

end HitTable

namespace Gate

variable {idle : Duration} {interval : Nat} {g₀ g : Gate} {s : Sweeper} {most : Nat}

/-- Whoever comes has just come, and all others have come when they had.  The time of a hit never
goes back. -/
theorem decide_recent (h : g.table.Recent most) (rules : List Rule) (r : Request) :
    (g.decide rules r).2.table.Recent most := by
  intro key tally hk
  rw [decide_clock]
  rw [decide_get?] at hk
  by_cases hkey : key = r.address.canonical
  · rw [if_pos hkey] at hk
    obtain rfl := Option.some.inj hk
    have hlast : g.table.clock ≤
        ((g.table.tally r.address).decided g.table.clock (g.decide rules r).1).lastHit := by
      unfold Tally.decided
      split
      · exact Nat.le_max_right _ _
      · exact Nat.le_max_right _ _
    omega
  · rw [if_neg hkey] at hk
    exact h key tally hk

/-- Every call but the passing of time, since no other one moves the clock. -/
theorem perform_recent (h : g.table.Recent most) (c : Call) (hc : ∀ millis, c ≠ .elapse millis) :
    (g.perform c).2.table.Recent most := by
  have of_agrees : ∀ {g' : Gate}, g'.Agrees g → g'.table.Recent most := fun ha => by
    rw [ha.table]
    exact h
  cases c with
  | decide rules r => exact decide_recent h rules r
  | action rules r => exact decide_recent h rules r
  | serve r => exact decide_recent h g.active.rules r
  | newRule rule text => exact of_agrees (g.newRule_agrees rule text)
  | compile configs => exact of_agrees (g.compile_agrees configs)
  | reload configs => exact of_agrees (g.reload_agrees configs)
  | store rules => exact h
  | sweep idle => exact h.sweep idle
  | sweepOnTime idle => exact h.sweep idle
  | elapse millis => exact absurd rfl (hc millis)

namespace Tended

/-- **A gate that is tended answers calls**, those of the sweeper among them.  They depend on the
sweeper only by how many sweeps there are. -/
theorem run (h : Tended idle interval g₀ g s) : ∃ calls, g = (g₀.run calls).2 := by
  induction h with
  | start => exact ⟨[], rfl⟩
  | call c _ _ ih =>
    obtain ⟨calls, rfl⟩ := ih
    refine ⟨calls ++ [c], ?_⟩
    rw [run_append]
    rfl
  | @tend g s millis _ ih =>
    obtain ⟨calls, rfl⟩ := ih
    refine ⟨calls ++ .elapse millis :: List.replicate (s.advance millis).1 (.sweepOnTime idle), ?_⟩
    rw [run_append]
    exact tend_run s millis

theorem interval_eq (h : Tended idle interval g₀ g s) : s.interval = max interval 1 := by
  induction h with
  | start => rfl
  | call _ _ _ ih => exact ih
  | @tend g s millis _ ih => exact (s.advance_frame millis).2.trans ih

theorem ahead (h : Tended idle interval g₀ g s) : s.Ahead := by
  induction h with
  | start => exact Sweeper.start_ahead interval
  | call _ _ _ ih => exact ih
  | tend millis _ ih => exact ih.advance millis

/-- **What holds between two sweeps**: a client has been idle for no longer than it may be, and than
has passed since the last sweep.  Time that passes adds as much on both sides, and a sweep starts
again. -/
theorem recent (h : Tended idle interval g₀ g s) (h₀ : g₀.table.tallies = ∅) :
    g.table.Recent (idle.millis + (s.now + s.interval - s.due)) := by
  induction h with
  | start =>
    intro key tally hk
    rw [h₀] at hk
    cases hk
  | call c hc _ ih => exact perform_recent ih c hc
  | @tend g s millis hr ih =>
    rw [tend_eq]
    by_cases hdue : s.now + millis < s.due
    · have hrest : (s.advance millis).2 = { s with now := s.now + millis } :=
        congrArg Prod.snd (Sweeper.catchUp_of_lt hdue)
      rw [if_pos hdue, Gate.tend, hrest]
      refine (ih.elapse millis).mono ?_
      have := hr.ahead.due_le
      simp only
      omega
    · rw [if_neg hdue]
      exact ((g.elapse millis).table.recent_sweep idle).mono (Nat.le_add_right _ _)

/-- **No client is kept much longer than it may be idle.**  Whatever the gate is asked and however
the time passes: every client in the table has come in the time that it may be idle and one interval
together. -/
theorem kept (h : Tended idle interval g₀ g s) (h₀ : g₀.table.tallies = ∅) {key : Address}
    {tally : Tally} (hk : g.table.tallies.get? key = some tally) :
    g.table.clock - tally.lastHit < idle.millis + max interval 1 := by
  have hrecent := h.recent h₀ key tally hk
  have hlt := h.ahead.now_lt
  have hle := h.ahead.due_le
  rw [← h.interval_eq]
  omega

end Tended

end Gate

end Turnstile
