/-
# Sweeping at intervals

The task in the background that sweeps the hit table of a service, as an interval that ticks and
delays what it has missed.  A sweeper is due one interval after its start, and then again and again.
It is punctual as long as it runs at most `grace` milliseconds after it was due: the next time is
one interval after the last due time.  If it runs later than that, the next time is one interval
after it ran, so that missed times are not made up for.
-/

namespace Turnstile

/-- When a sweeper is due, in milliseconds. -/
structure Sweeper where
  interval : Nat
  now : Nat := 0
  due : Nat
  interval_pos : 0 < interval

namespace Sweeper

/-- How late a punctual sweep may be. -/
def grace : Nat := 5

/-- A sweeper that starts now.  An interval is at least one millisecond. -/
def start (interval : Nat) : Sweeper where
  interval := max interval 1
  due := max interval 1
  interval_pos := Nat.le_max_right interval 1

/-- The due time behind a sweep that runs now. -/
def next (s : Sweeper) : Nat :=
  if s.due + grace < s.now then s.now + s.interval else s.due + s.interval

theorem due_lt_next (s : Sweeper) : s.due < s.next := by
  have := s.interval_pos
  unfold next grace
  split <;> omega

/-- Runs while due.  Gives how often. -/
def catchUp (s : Sweeper) : Nat × Sweeper :=
  if s.due ≤ s.now then
    let (times, s') := catchUp { s with due := s.next }
    (times + 1, s')
  else (0, s)
termination_by s.now + 1 - s.due
decreasing_by
  have := s.due_lt_next
  omega

/-- Lets time pass in one go, and runs behind it.  Gives how often. -/
def advance (s : Sweeper) (millis : Nat) : Nat × Sweeper :=
  catchUp { s with now := s.now + millis }

end Sweeper

end Turnstile
