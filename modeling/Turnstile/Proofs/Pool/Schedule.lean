/-
# A pool under any schedule

A lobby is the parser pool with all the threads that use it: who holds which parser, who waits, who
has been notified, and which notifications are still to be sent.  Its steps are what callers do
under the pool's lock, and they may come in any order.  A notification is a step of its own behind
the one that calls for it, so that anything can happen in between; and a waiting caller may look at
the pool at any time, notified or not.

Parsers look all alike, so a lobby numbers them as they are made: `stock` numbers the idle ones,
`held` the others.  Tickets are numbered by arrival.

**No parser is lost, and none is in two hands.**  The numbers in `stock` and `held` are those of the
parsers that were made, each once (`Sound.serials`).

**No one waits for a parser that lies there.**  If a parser is idle, the first caller in line has
been notified or is about to be (`Sound.heard`).  This is what a notification behind every way to an
idle parser or to a new first place is for: a return, a turn that leaves both, a caller that stops
waiting.

**The line is kept.**  Every ticket is waiting, served or given up (`Line.accounted`), and waiting
tickets go up (`Line.sorted`); so all tickets below the first one are served or given up.
-/
import Turnstile.Pool

namespace Turnstile

open Turnstile.Parser (Workspace)

/-! ## 1. Lobbies -/

/-- A pool with everyone who uses it. -/
structure Lobby where
  pool : Pool
  /-- The numbers of the idle parsers, in the order of `pool.idle`. -/
  stock : List Nat := []
  /-- The numbers of the parsers that callers hold. -/
  held : List Nat := []
  /-- How many notifications are still to be sent. -/
  signals : Nat := 0
  /-- Waiting callers who have been notified and have not looked since. -/
  woken : List Ticket := []
  /-- How many tickets have been given out. -/
  issued : Nat := 0
  /-- The tickets of those who waited and got a parser. -/
  served : List Ticket := []
  /-- The tickets of those who stopped waiting. -/
  gaveUp : List Ticket := []

namespace Lobby

/-- What a caller or a notification does. -/
inductive Act where
  | arrive
  | notify
  /-- A waiting caller looks whether it may go ahead. -/
  | look (ticket : Ticket)
  /-- A waiting caller has waited long enough and looks once more. -/
  | expire (ticket : Ticket)
  | release (serial : Nat) (w : Workspace)

/-- What comes of it. -/
inductive Outcome where
  | granted (serial : Nat)
  | queued (ticket : Ticket)
  | asleep
  | timedOut
  /-- The caller may go ahead, and there is no parser. -/
  | noParser
  | done

/-- A pool that nobody has used yet. -/
def start (capacity : Nat) : Lobby := { pool := .new capacity }

variable (s : Lobby)

/-- A caller asks for a parser.  It gets an idle one, or a new one with the next number. -/
def enter : Outcome × Lobby :=
  match s.pool.arrive with
  | (.granted _, pool) => match s.stock with
    | serial :: stock => (.granted serial, { s with pool, stock, held := serial :: s.held })
    | [] => (.granted s.pool.created, { s with pool, held := s.pool.created :: s.held })
  | (.queued ticket, pool) => (.queued ticket, { s with pool, issued := s.issued + 1 })

/-- A waiting caller goes ahead. -/
def take (ticket : Ticket) : Outcome × Lobby :=
  let s' := { s with
    pool := s.pool.takeTurn.2
    signals := s.signals + if s.pool.wakesOnTurn then 1 else 0
    woken := s.woken.filter (· != ticket) }
  match s.pool.takeTurn.1, s.stock with
  | some _, serial :: stock =>
    (.granted serial, { s' with
      stock, held := serial :: s.held, served := ticket :: s.served })
  | _, _ => (.noParser, s')

/-- A waiting caller looks, and goes on waiting unless its turn has come. -/
def look (ticket : Ticket) : Outcome × Lobby :=
  if s.pool.isTurn ticket then s.take ticket
  else (.asleep, { s with woken := s.woken.filter (· != ticket) })

/-- A waiting caller looks once more, and leaves unless its turn has come.  The others are notified,
since it may have been the first in line. -/
def leave (ticket : Ticket) : Outcome × Lobby :=
  if s.pool.isTurn ticket then s.take ticket
  else (.timedOut, { s with
    pool := (s.pool.expire ticket).2
    signals := s.signals + 1
    woken := s.woken.filter (· != ticket)
    gaveUp := ticket :: s.gaveUp })

/-- A caller gives a parser back. -/
def giveBack (serial : Nat) (w : Workspace) : Lobby :=
  { s with
    pool := s.pool.release w
    stock := serial :: s.stock
    held := s.held.erase serial
    signals := s.signals + if s.pool.wakesOnRelease then 1 else 0 }

/-- A notification reaches all who wait. -/
def notify : Lobby :=
  { s with signals := s.signals - 1, woken := s.pool.waiting }

/-- One step under the lock, if it can be taken.  Callers stop waiting only if the pool has a
timeout. -/
def step (timed : Bool) : Act → Option (Outcome × Lobby)
  | .arrive => some s.enter
  | .notify => if 0 < s.signals then some (.done, s.notify) else none
  | .look ticket => if ticket ∈ s.pool.waiting then some (s.look ticket) else none
  | .expire ticket =>
    if timed ∧ ticket ∈ s.pool.waiting then some (s.leave ticket) else none
  | .release serial w => if serial ∈ s.held then some (.done, s.giveBack serial w) else none

/-- What steps in any order lead to. -/
inductive Reachable (capacity : Nat) (timed : Bool) : Lobby → Prop
  | start : Reachable capacity timed (start capacity)
  | step {s s' : Lobby} {act : Act} {outcome : Outcome} :
      Reachable capacity timed s → s.step timed act = some (outcome, s') →
      Reachable capacity timed s'

end Lobby

/-! ## 2. What a step can do -/

/-- **An arrival.**  Three ways: an idle parser, a new one, or a place in the line.  The first two
are only open while nobody waits. -/
theorem Pool.arrive_cases (p : Pool) :
    (p.waiting = [] ∧ ∃ w idle, p.idle = w :: idle ∧ p.arrive = (.granted w, { p with idle })) ∨
    (p.waiting = [] ∧ p.idle = [] ∧ p.created < p.capacity ∧
      p.arrive = (.granted {}, { p with created := p.created + 1 })) ∨
    ((p.waiting = [] → p.idle = [] ∧ p.capacity ≤ p.created) ∧ p.arrive = p.enqueue) := by
  rcases p with ⟨capacity, _ | ⟨w, idle⟩, created, _ | ⟨t, waiting⟩, nextTicket, pos⟩
  · by_cases hc : created < capacity
    · exact .inr (.inl ⟨rfl, rfl, hc, if_pos hc⟩)
    · exact .inr (.inr ⟨fun _ => ⟨rfl, Nat.le_of_not_lt hc⟩, if_neg hc⟩)
  · exact .inr (.inr ⟨fun h => absurd h (List.cons_ne_nil _ _), rfl⟩)
  · exact .inl ⟨rfl, w, idle, rfl, rfl⟩
  · exact .inr (.inr ⟨fun h => absurd h (List.cons_ne_nil _ _), rfl⟩)

/-- A caller whose turn has come is the first in line, and a parser is idle.  Being first is not
enough, and neither is an idle parser. -/
theorem Pool.isTurn_iff (p : Pool) (ticket : Ticket) :
    p.isTurn ticket = true ↔
      ∃ waiting w idle, p.waiting = ticket :: waiting ∧ p.idle = w :: idle := by
  unfold Pool.isTurn
  rcases p.waiting with _ | ⟨t, waiting⟩
  · simp
  · rcases p.idle with _ | ⟨w, idle⟩
    · simp
    · simp

namespace Lobby

/-- The steps, each with what it needs and what it does.  None of them finds no parser. -/
inductive Moves (s : Lobby) (timed : Bool) : Act → Outcome → Lobby → Prop
  | borrow {w : Workspace} {idle : List Workspace} {serial : Nat} {stock : List Nat} :
      s.pool.waiting = [] → s.pool.idle = w :: idle → s.stock = serial :: stock →
      Moves s timed .arrive (.granted serial)
        { s with pool := { s.pool with idle }, stock, held := serial :: s.held }
  | make :
      s.pool.waiting = [] → s.pool.idle = [] → s.stock = [] →
      s.pool.created < s.pool.capacity →
      Moves s timed .arrive (.granted s.pool.created)
        { s with
          pool := { s.pool with created := s.pool.created + 1 }
          held := s.pool.created :: s.held }
  | queue :
      (s.pool.waiting = [] → s.pool.idle = [] ∧ s.pool.capacity ≤ s.pool.created) →
      Moves s timed .arrive (.queued s.pool.nextTicket)
        { s with pool := s.pool.enqueue.2, issued := s.issued + 1 }
  | notify : 0 < s.signals → Moves s timed .notify .done s.notify
  | look {ticket : Ticket} :
      ticket ∈ s.pool.waiting → s.pool.isTurn ticket = false →
      Moves s timed (.look ticket) .asleep { s with woken := s.woken.filter (· != ticket) }
  | leave {ticket : Ticket} :
      timed → ticket ∈ s.pool.waiting → s.pool.isTurn ticket = false →
      Moves s timed (.expire ticket) .timedOut
        { s with
          pool := { s.pool with waiting := s.pool.waiting.filter (· != ticket) }
          signals := s.signals + 1
          woken := s.woken.filter (· != ticket)
          gaveUp := ticket :: s.gaveUp }
  | turn {act : Act} {ticket : Ticket} {waiting : List Ticket} {w : Workspace}
      {idle : List Workspace} {serial : Nat} {stock : List Nat} {signals : Nat} :
      act = .look ticket ∨ act = .expire ticket →
      s.pool.waiting = ticket :: waiting → s.pool.idle = w :: idle →
      s.stock = serial :: stock → (idle ≠ [] → waiting ≠ [] → 0 < signals) →
      Moves s timed act (.granted serial)
        { s with
          pool := { s.pool with waiting, idle }
          stock
          held := serial :: s.held
          signals
          woken := s.woken.filter (· != ticket)
          served := ticket :: s.served }
  | release {serial : Nat} {w : Workspace} :
      serial ∈ s.held → Moves s timed (.release serial w) .done (s.giveBack serial w)

variable {s s' : Lobby} {timed : Bool}

theorem enter_moves (hs : s.stock.length = s.pool.idle.length) {outcome : Outcome}
    (h : s.enter = (outcome, s')) : Moves s timed .arrive outcome s' := by
  unfold enter at h
  obtain ⟨hw, w, idle, hi, ha⟩ | ⟨hw, hi, hc, ha⟩ | ⟨hq, ha⟩ := s.pool.arrive_cases
  · rw [hi] at hs
    obtain ⟨serial, stock, hstock⟩ := List.exists_cons_of_length_eq_add_one hs
    rw [ha, hstock] at h
    cases h
    exact .borrow hw hi hstock
  · rw [hi] at hs
    have hstock : s.stock = [] := List.eq_nil_of_length_eq_zero hs
    rw [ha, hstock] at h
    cases h
    rw [← hstock]
    exact .make hw hi hstock hc
  · rw [ha] at h
    cases h
    exact .queue hq

/-- The one way to go ahead, for a caller that looks in time and for one that looks too late.
Patience that has run out is no reason to refuse a parser that is there. -/
theorem take_moves (hs : s.stock.length = s.pool.idle.length) {act : Act} {ticket : Ticket}
    (hact : act = .look ticket ∨ act = .expire ticket) (ht : s.pool.isTurn ticket = true)
    {outcome : Outcome} (h : s.take ticket = (outcome, s')) : Moves s timed act outcome s' := by
  obtain ⟨waiting, w, idle, hw, hi⟩ := (s.pool.isTurn_iff ticket).1 ht
  rw [hi] at hs
  obtain ⟨serial, stock, hstock⟩ := List.exists_cons_of_length_eq_add_one hs
  have hsignal : idle ≠ [] → waiting ≠ [] →
      0 < s.signals + if s.pool.wakesOnTurn then 1 else 0 := by
    intro hidle hwaiting
    have hwakes : s.pool.wakesOnTurn = true := by
      simp [Pool.wakesOnTurn, hw, hi, hidle, hwaiting]
    rw [hwakes]
    exact Nat.succ_pos _
  have hturn : s.pool.takeTurn = (some w, { s.pool with waiting, idle }) := by
    simp only [Pool.takeTurn, hw, hi, List.head?_cons, List.tail_cons]
  unfold take at h
  rw [hturn, hstock] at h
  cases h
  exact .turn hact hw hi hstock hsignal

/-- **Every step is one of the moves.**  The invariants below are shown of the moves, so the steps
are gone through only here. -/
theorem step_moves (hs : s.stock.length = s.pool.idle.length) {act : Act} {outcome : Outcome}
    (h : s.step timed act = some (outcome, s')) : Moves s timed act outcome s' := by
  cases act with
  | arrive => exact enter_moves hs (Option.some.inj h)
  | notify =>
    obtain ⟨hc, h⟩ := Option.ite_none_right_eq_some.1 h
    cases h
    exact .notify hc
  | look ticket =>
    obtain ⟨hc, h⟩ := Option.ite_none_right_eq_some.1 h
    rw [Option.some.injEq, look] at h
    cases ht : s.pool.isTurn ticket with
    | true =>
      rw [ht, if_pos rfl] at h
      exact take_moves hs (.inl rfl) ht h
    | false =>
      rw [ht] at h
      cases h
      exact .look hc ht
  | expire ticket =>
    obtain ⟨⟨htimed, hc⟩, h⟩ := Option.ite_none_right_eq_some.1 h
    rw [Option.some.injEq, leave] at h
    cases ht : s.pool.isTurn ticket with
    | true =>
      rw [ht, if_pos rfl] at h
      exact take_moves hs (.inr rfl) ht h
    | false =>
      have he : s.pool.expire ticket =
          (none, { s.pool with waiting := s.pool.waiting.filter (· != ticket) }) := by
        rw [Pool.expire, ht]
        rfl
      rw [ht, he] at h
      cases h
      exact .leave htimed hc ht
  | release serial w =>
    obtain ⟨hc, h⟩ := Option.ite_none_right_eq_some.1 h
    cases h
    exact .release hc

namespace Moves

variable {act : Act} {outcome : Outcome}

theorem issued_le (h : Moves s timed act outcome s') : s.issued ≤ s'.issued := by
  cases h with
  | queue _ => exact Nat.le_succ _
  | _ => exact Nat.le_refl _

theorem capacity_eq (h : Moves s timed act outcome s') :
    s'.pool.capacity = s.pool.capacity := by
  cases h <;> rfl

end Moves

/-! ## 3. Parsers and notifications -/

/-- **What holds of parsers and notifications in every lobby.** -/
structure Sound (s : Lobby) : Prop where
  created_le : s.pool.created ≤ s.pool.capacity
  stocked : s.stock.length = s.pool.idle.length
  /-- The parsers that were made are the idle ones and the held ones, each once. -/
  serials : (s.stock ++ s.held).Perm (List.range s.pool.created)
  full : s.pool.waiting ≠ [] → s.pool.created = s.pool.capacity
  /-- If a parser is idle, the first in line knows or will know. -/
  heard (ticket : Ticket) : s.pool.idle ≠ [] → s.pool.waiting.head? = some ticket →
    0 < s.signals ∨ ticket ∈ s.woken

theorem Sound.start (capacity : Nat) : Sound (start capacity) where
  created_le := Nat.zero_le _
  stocked := rfl
  serials := .refl _
  full h := absurd rfl h
  heard _ h := absurd rfl h

/-- A parser that moves from the stock to a holder is neither lost nor doubled; the order in which
the two are listed does not matter. -/
theorem perm_borrow {serial : Nat} {stock held : List Nat} {n : Nat}
    (h : (serial :: stock ++ held).Perm (List.range n)) :
    (stock ++ serial :: held).Perm (List.range n) :=
  List.perm_middle.trans h

theorem perm_make {stock held : List Nat} {n : Nat} (h : (stock ++ held).Perm (List.range n)) :
    (stock ++ n :: held).Perm (List.range (n + 1)) := by
  rw [List.range_succ]
  exact (List.perm_middle.trans (h.cons n)).trans (List.perm_append_singleton n _).symm

theorem perm_release {serial : Nat} {stock held : List Nat} {n : Nat} (hs : serial ∈ held)
    (h : (stock ++ held).Perm (List.range n)) :
    (serial :: stock ++ held.erase serial).Perm (List.range n) :=
  (List.perm_middle.symm.trans ((List.perm_cons_erase hs).symm.append_left stock)).trans h

/-- A caller that looks in vain is not the first in line while a parser is idle.  So the one whose
turn it is never goes back to sleep. -/
theorem ne_of_not_turn {ticket first : Ticket} (ht : s.pool.isTurn ticket = false)
    (hi : s.pool.idle ≠ []) (hf : s.pool.waiting.head? = some first) : first ≠ ticket := by
  rintro rfl
  unfold Pool.isTurn at ht
  simp [hf, hi] at ht

/-- Whoever gets a parser gets one that nobody holds, and is from then on the only holder of it. -/
theorem Moves.granted {act : Act} {serial : Nat} (h : Moves s timed act (.granted serial) s')
    (hs : Sound s) : serial ∉ s.held ∧ s'.held = serial :: s.held := by
  have hnodup : (s.stock ++ s.held).Nodup := hs.serials.nodup_iff.2 List.nodup_range
  have of_stock : ∀ {stock : List Nat}, s.stock = serial :: stock → serial ∉ s.held := by
    intro stock hstock hheld
    rw [hstock] at hnodup
    exact (List.nodup_append.1 hnodup).2.2 serial List.mem_cons_self serial hheld rfl
  cases h with
  | borrow _ _ hstock => exact ⟨of_stock hstock, rfl⟩
  | turn _ _ _ hstock _ => exact ⟨of_stock hstock, rfl⟩
  | make _ _ _ _ =>
    refine ⟨fun hheld => ?_, rfl⟩
    have := List.mem_range.1 (hs.serials.subset (List.mem_append_right _ hheld))
    omega

theorem Sound.moves {act : Act} {outcome : Outcome} (hs : Sound s)
    (h : Moves s timed act outcome s') : Sound s' := by
  cases h with
  | borrow hw hi hstock =>
    refine ⟨hs.created_le, ?_, ?_, hs.full, ?_⟩
    · have hlength := hs.stocked
      rw [hi, hstock] at hlength
      exact Nat.succ.inj hlength
    · exact perm_borrow (hstock ▸ hs.serials)
    · intro ticket _ hf
      rw [hw] at hf
      cases hf
  | make hw hi hstock hc =>
    refine ⟨hc, hs.stocked, perm_make hs.serials, ?_, ?_⟩
    · exact fun h => absurd hw h
    · exact fun ticket h => absurd hi h
  | queue hq =>
    refine ⟨hs.created_le, hs.stocked, hs.serials, ?_, ?_⟩
    · intro _
      by_cases hw : s.pool.waiting = []
      · exact Nat.le_antisymm hs.created_le (hq hw).2
      · exact hs.full hw
    · intro ticket hi hf
      -- with nobody in line there was no idle parser; otherwise the first stays the first
      by_cases hw : s.pool.waiting = []
      · exact absurd (hq hw).1 hi
      · obtain ⟨first, rest, hfirst⟩ := List.exists_cons_of_ne_nil hw
        refine hs.heard ticket hi ?_
        simpa [Pool.enqueue, hfirst] using hf
  | notify _ =>
    refine ⟨hs.created_le, hs.stocked, hs.serials, hs.full, ?_⟩
    exact fun ticket _ hf => .inr (List.mem_of_head? hf)
  | look hm ht =>
    refine ⟨hs.created_le, hs.stocked, hs.serials, hs.full, ?_⟩
    intro first hi hf
    have hne := ne_of_not_turn ht hi hf
    refine (hs.heard first hi hf).imp_right fun hwoken => ?_
    exact List.mem_filter.2 ⟨hwoken, by simpa using hne⟩
  | leave htimed hm ht =>
    refine ⟨hs.created_le, hs.stocked, hs.serials, ?_, ?_⟩
    · exact fun _ => hs.full (List.ne_nil_of_mem hm)
    · exact fun first _ _ => .inl (Nat.succ_pos _)
  | turn hact hw hi hstock hsignal =>
    refine ⟨hs.created_le, ?_, ?_, ?_, ?_⟩
    · have hlength := hs.stocked
      rw [hi, hstock] at hlength
      exact Nat.succ.inj hlength
    · exact perm_borrow (hstock ▸ hs.serials)
    · intro _
      exact hs.full (by rw [hw]; exact List.cons_ne_nil _ _)
    · intro first hidle hf
      refine .inl (hsignal hidle ?_)
      rintro rfl
      cases hf
  | release hheld =>
    refine ⟨hs.created_le, congrArg Nat.succ hs.stocked, perm_release hheld hs.serials,
      hs.full, ?_⟩
    intro first _ hf
    refine .inl ?_
    have hw : s.pool.waiting ≠ [] := by
      intro hw
      rw [giveBack, Pool.release, hw] at hf
      cases hf
    have hwakes : s.pool.wakesOnRelease = true := by simpa [Pool.wakesOnRelease] using hw
    rw [giveBack, hwakes]
    exact Nat.succ_pos _

/-! ## 4. The line -/

/-- The tickets that were given out, in order. -/
def tickets (issued : Nat) : List Ticket :=
  (List.range issued).map UInt64.ofNat

theorem tickets_succ (issued : Nat) : tickets (issued + 1) = tickets issued ++ [.ofNat issued] := by
  rw [tickets, List.range_succ, List.map_append]
  rfl

theorem mem_tickets {issued : Nat} (h : issued < UInt64.size) (ticket : Ticket) :
    ticket ∈ tickets issued ↔ ticket.toNat < issued := by
  unfold tickets
  rw [List.mem_map]
  constructor
  · rintro ⟨i, hi, rfl⟩
    rw [List.mem_range] at hi
    rw [UInt64.toNat_ofNat_of_lt' (Nat.lt_trans hi h)]
    exact hi
  · intro hlt
    exact ⟨ticket.toNat, List.mem_range.2 hlt, UInt64.ofNat_toNat⟩

/-- **What holds of tickets in every lobby.** -/
structure Line (s : Lobby) : Prop where
  next : s.pool.nextTicket = .ofNat s.issued
  /-- Every ticket is in one place. -/
  accounted : (s.served ++ s.gaveUp ++ s.pool.waiting).Perm (tickets s.issued)
  sorted : s.pool.waiting.Pairwise (· < ·)

theorem Line.start (capacity : Nat) : Line (start capacity) where
  next := rfl
  accounted := .refl _
  sorted := .nil

theorem Line.lt_issued (hl : Line s) (hn : s.issued < UInt64.size) {ticket : Ticket}
    (h : ticket ∈ s.pool.waiting) : ticket.toNat < s.issued :=
  (mem_tickets hn ticket).1 (hl.accounted.subset (List.mem_append_right _ h))

theorem Line.nodup (hl : Line s) : s.pool.waiting.Nodup := by
  refine List.Pairwise.imp ?_ hl.sorted
  rintro a b h rfl
  exact Nat.lt_irrefl _ h

/-- **Everyone ahead of the first in line is served or gone.**  The bound on the tickets is what
keeps a number from being given twice. -/
theorem Line.ahead (hl : Line s) (hn : s.issued < UInt64.size) {ticket : Ticket}
    {waiting : List Ticket} (hw : s.pool.waiting = ticket :: waiting) {earlier : Ticket}
    (he : earlier < ticket) : earlier ∈ s.served ∨ earlier ∈ s.gaveUp := by
  have hlt : earlier.toNat < ticket.toNat := he
  have hticket := hl.lt_issued hn (hw ▸ List.mem_cons_self)
  have hissued : earlier ∈ tickets s.issued := (mem_tickets hn earlier).2 (by omega)
  rcases List.mem_append.1 (hl.accounted.symm.subset hissued) with h | h
  · exact List.mem_append.1 h
  · -- a ticket in the line is the first or above it
    have hsorted := hl.sorted
    rw [hw] at h hsorted
    rcases List.mem_cons.1 h with rfl | h
    · exact absurd hlt (Nat.lt_irrefl _)
    · have hgt : ticket.toNat < earlier.toNat := List.rel_of_pairwise_cons hsorted h
      omega

theorem Line.moves {act : Act} {outcome : Outcome} (hl : Line s) (hn : s.issued < UInt64.size)
    (h : Moves s timed act outcome s') : Line s' := by
  cases h with
  | queue hq =>
    refine ⟨?_, ?_, ?_⟩
    · show s.pool.nextTicket + 1 = .ofNat (s.issued + 1)
      rw [hl.next, UInt64.ofNat_add]
      rfl
    · show (s.served ++ s.gaveUp ++ (s.pool.waiting ++ [s.pool.nextTicket])).Perm _
      rw [← List.append_assoc, hl.next, tickets_succ]
      exact hl.accounted.append_right _
    · show (s.pool.waiting ++ [s.pool.nextTicket]).Pairwise (· < ·)
      refine List.pairwise_append.2 ⟨hl.sorted, List.pairwise_singleton _ _, ?_⟩
      intro a ha b hb
      rw [List.mem_singleton] at hb
      rw [hb, hl.next, UInt64.lt_iff_toNat_lt, UInt64.toNat_ofNat_of_lt' hn]
      exact hl.lt_issued hn ha
  | @leave ticket htimed hm ht =>
    refine ⟨hl.next, ?_, hl.sorted.filter _⟩
    have hfilter : (ticket :: s.pool.waiting.filter (· != ticket)).Perm s.pool.waiting := by
      rw [← hl.nodup.erase_eq_filter ticket]
      exact (List.perm_cons_erase hm).symm
    show (s.served ++ ticket :: s.gaveUp ++ s.pool.waiting.filter (· != ticket)).Perm _
    refine .trans ?_ hl.accounted
    rw [List.append_assoc, List.append_assoc, List.cons_append]
    refine .append_left _ ?_
    exact List.perm_middle.symm.trans (hfilter.append_left _)
  | @turn _ ticket _ _ _ _ _ _ hact hw hi hstock hsignal =>
    have hsorted := hl.sorted
    rw [hw] at hsorted
    refine ⟨hl.next, ?_, hsorted.of_cons⟩
    refine .trans ?_ (hw ▸ hl.accounted)
    exact List.perm_middle.symm
  | borrow hw hi hstock => exact ⟨hl.next, hl.accounted, hl.sorted⟩
  | make hw hi hstock hc => exact ⟨hl.next, hl.accounted, hl.sorted⟩
  | notify hc => exact ⟨hl.next, hl.accounted, hl.sorted⟩
  | look hm ht => exact ⟨hl.next, hl.accounted, hl.sorted⟩
  | release hheld => exact ⟨hl.next, hl.accounted, hl.sorted⟩

/-! ## 5. Every lobby that can be reached -/

namespace Reachable

variable {capacity : Nat}

theorem sound (h : Reachable capacity timed s) : Sound s := by
  induction h with
  | start => exact .start capacity
  | step _ hstep ih => exact ih.moves (step_moves ih.stocked hstep)

/-- Tickets are only ever added, so a bound on them held all the way, and with it the order of the
line. -/
theorem line (h : Reachable capacity timed s) (hn : s.issued < UInt64.size) : Line s := by
  induction h with
  | start => exact .start capacity
  | step hr hstep ih =>
    have hmoves := step_moves hr.sound.stocked hstep
    have hle := hmoves.issued_le
    exact (ih (by omega)).moves (by omega) hmoves

theorem capacity_eq (h : Reachable capacity timed s) : s.pool.capacity = max capacity 1 := by
  induction h with
  | start => rfl
  | step hr hstep ih => rw [(step_moves hr.sound.stocked hstep).capacity_eq, ih]

end Reachable

/-- A caller that is first in line while a parser is idle may go ahead, and takes the first that is
idle. -/
theorem look_first (timed : Bool) (hs : s.stock.length = s.pool.idle.length) {first : Ticket}
    {waiting : List Ticket} {w : Workspace} {idle : List Workspace}
    (hw : s.pool.waiting = first :: waiting) (hi : s.pool.idle = w :: idle) :
    ∃ serial s', s.step timed (.look first) = some (.granted serial, s') ∧
      s'.pool = { s.pool with waiting, idle } ∧ s'.held = serial :: s.held ∧
      s'.stock.length = s'.pool.idle.length := by
  have ht : s.pool.isTurn first = true := (s.pool.isTurn_iff first).2 ⟨_, _, _, hw, hi⟩
  have hm : first ∈ s.pool.waiting := hw ▸ List.mem_cons_self
  have hstep : s.step timed (.look first) = some (s.take first) := by
    rw [step, if_pos hm, look, ht, if_pos rfl]
  rcases hmove : s.take first with ⟨outcome, s'⟩
  rw [hmove] at hstep
  cases step_moves hs hstep with
  | look _ hf =>
    rw [ht] at hf
    cases hf
  | turn hact hw' hi' hstock =>
    obtain rfl := (List.cons.inj (hw.symm.trans hw')).2
    obtain ⟨rfl, rfl⟩ := List.cons.inj (hi.symm.trans hi')
    rw [hi, hstock] at hs
    exact ⟨_, _, hstep, rfl, rfl, Nat.succ.inj hs⟩

/-- Whoever arrives has no turn yet: an arrival is granted what is idle or new, and never what
someone in line waits for. -/
theorem arrive_ne_turn {ticket : Ticket} :
    ¬(Act.arrive = .look ticket ∨ Act.arrive = .expire ticket) := by
  rintro (h | h)
  · cases h
  · cases h

/-- **Safety under any schedule.**  Whatever the capacity asked for, with a timeout or without one,
and whatever callers do in whatever order, as long as the tickets do not run out.  In every lobby:
no more parsers than the capacity, which is at least one; each parser that was made is idle or held,
and no parser is both or twice; the line is in order of tickets, every ticket is served, given up or
in the line, and there is a line only if all parsers are made; with an idle parser and a line, the
first caller knows or will know, and gets the parser when it looks, so that once all have looked
there is not both.  On every step: a turn never finds no parser; a parser that is granted was in
nobody's hands; newcomers queue behind a line, with the next ticket; and whoever gets a parser in
turn has nobody ahead who was not served or gone before. -/
theorem pool_safe :
    (∀ (capacity : Nat) (timed : Bool) (s : Lobby), Reachable capacity timed s →
      s.issued < UInt64.size →
      s.pool.capacity = max capacity 1 ∧
      s.pool.created ≤ s.pool.capacity ∧
      s.pool.created = s.pool.idle.length + s.held.length ∧
      s.stock.length = s.pool.idle.length ∧
      (s.stock ++ s.held).Perm (List.range s.pool.created) ∧
      s.pool.waiting.Pairwise (· < ·) ∧
      (s.served ++ s.gaveUp ++ s.pool.waiting).Perm (tickets s.issued) ∧
      (s.pool.waiting ≠ [] → s.pool.created = s.pool.capacity) ∧
      (∀ first rest, s.pool.idle ≠ [] → s.pool.waiting = first :: rest →
        (0 < s.signals ∨ first ∈ s.woken) ∧
        ∃ serial s', s.step timed (.look first) = some (.granted serial, s')) ∧
      (s.signals = 0 → s.woken = [] → s.pool.idle = [] ∨ s.pool.waiting = [])) ∧
    (∀ (capacity : Nat) (timed : Bool) (s s' : Lobby) (act : Act) (outcome : Outcome),
      Reachable capacity timed s → s.issued < UInt64.size →
      s.step timed act = some (outcome, s') →
      outcome ≠ .noParser ∧
      (∀ serial, outcome = .granted serial →
        serial ∉ s.held ∧ s'.held = serial :: s.held) ∧
      (act = .arrive → s.pool.waiting ≠ [] → ∃ ticket, outcome = .queued ticket) ∧
      (∀ ticket, outcome = .queued ticket →
        ticket.toNat = s.issued ∧ s'.issued = s.issued + 1 ∧
        s'.pool.waiting = s.pool.waiting ++ [ticket]) ∧
      (∀ ticket serial, act = .look ticket ∨ act = .expire ticket →
        outcome = .granted serial →
        ∀ earlier < ticket, earlier ∈ s.served ∨ earlier ∈ s.gaveUp)) := by
  constructor
  · intro capacity timed s hr hn
    have hs := hr.sound
    have hl := hr.line hn
    have hlength := hs.serials.length_eq
    rw [List.length_append, List.length_range, hs.stocked] at hlength
    refine ⟨hr.capacity_eq, hs.created_le, hlength.symm, hs.stocked, hs.serials, hl.sorted,
      hl.accounted, hs.full, ?_, ?_⟩
    · intro first rest hi hw
      obtain ⟨w, idle, hidle⟩ := List.exists_cons_of_ne_nil hi
      obtain ⟨serial, s', hlook, -⟩ := look_first timed hs.stocked hw hidle
      exact ⟨hs.heard first hi (by rw [hw]; rfl), serial, s', hlook⟩
    · intro hsignals hwoken
      rcases hw : s.pool.waiting with _ | ⟨first, rest⟩
      · exact .inr rfl
      · refine .inl (Decidable.byContradiction fun hi => ?_)
        rcases hs.heard first hi (by rw [hw]; rfl) with h | h
        · omega
        · rw [hwoken] at h
          cases h
  · intro capacity timed s s' act outcome hr hn hstep
    have hs := hr.sound
    have hl := hr.line hn
    have hmoves := step_moves hs.stocked hstep
    refine ⟨?_, ?_, ?_, ?_, ?_⟩
    · rintro rfl
      cases hmoves
    · rintro serial rfl
      exact hmoves.granted hs
    · rintro rfl hw
      cases hmoves with
      | borrow he => exact absurd he hw
      | make he => exact absurd he hw
      | queue _ => exact ⟨_, rfl⟩
      | turn hact => exact absurd hact arrive_ne_turn
    · rintro ticket rfl
      cases hmoves with
      | queue _ =>
        refine ⟨?_, rfl, rfl⟩
        rw [hl.next, UInt64.toNat_ofNat_of_lt' hn]
    · rintro ticket serial hact rfl earlier he
      cases hmoves with
      | borrow => exact absurd hact arrive_ne_turn
      | make => exact absurd hact arrive_ne_turn
      | @turn _ mine _ _ _ _ _ _ hmine hw =>
        have hticket : mine = ticket := by
          rcases hact with rfl | rfl <;> rcases hmine with h | h <;> cases h <;> rfl
        exact hl.ahead hn hw (hticket ▸ he)

/-- With one parser, three callers come, and the first gives its parser back.  A notification is on
its way, the second caller gets the parser when it looks, and a fourth one would queue behind the
third. -/
theorem pool_safe_line :
    ∃ s : Lobby, Reachable 1 false s ∧ s.issued < UInt64.size ∧
      s.pool.waiting = [0, 1] ∧ s.pool.idle ≠ [] ∧
      (0 < s.signals ∨ 0 ∈ s.woken) ∧
      (∃ serial s', s.step false (.look 0) = some (.granted serial, s') ∧ serial ∉ s.held ∧
        s'.held = serial :: s.held) ∧
      ∃ ticket s', s.step false .arrive = some (.queued ticket, s') ∧
        s'.pool.waiting = [0, 1, ticket] := by
  let full : Lobby := (start 1).enter.2.enter.2.enter.2
  let s : Lobby := full.giveBack 0 {}
  have henter : ∀ {s : Lobby}, Reachable 1 false s → Reachable 1 false s.enter.2 := by
    intro s h
    have hstep : s.step false .arrive = some (s.enter.1, s.enter.2) := rfl
    exact h.step hstep
  have hgiven : full.step false (.release 0 {}) = some (.done, s) := rfl
  have hreached : Reachable 1 false s := (henter (henter (henter .start))).step hgiven
  have hissued : s.issued < UInt64.size := by decide
  have hidle : s.pool.idle ≠ [] := List.cons_ne_nil _ _
  obtain ⟨-, -, -, -, -, -, -, -, hheard, -⟩ := pool_safe.1 1 false s hreached hissued
  obtain ⟨hsignal, serial, s', hlook⟩ := hheard 0 [1] hidle rfl
  obtain ⟨-, hgranted, -⟩ := pool_safe.2 1 false s s' (.look 0) _ hreached hissued hlook
  obtain ⟨hfree, hheld⟩ := hgranted serial rfl
  obtain ⟨-, -, hqueue, hplace, -⟩ :=
    pool_safe.2 1 false s s.enter.2 .arrive s.enter.1 hreached hissued rfl
  obtain ⟨ticket, hticket⟩ := hqueue rfl (List.cons_ne_nil _ _)
  exact ⟨s, hreached, hissued, rfl, hidle, hsignal, ⟨serial, s', hlook, hfree, hheld⟩, ticket,
    s.enter.2, congrArg (fun o => some (o, s.enter.2)) hticket, (hplace ticket hticket).2.2⟩

end Lobby

end Turnstile
