import DiagnosticFeed.Time

/-!
# Machines that work in turns

A machine has a clock and alarms. An alarm that is due becomes a turn; performing a turn changes the
state and may make further turns ready, which come in the next round. A round performs all turns
that are ready, in the order in which they became ready, and behind them those of the alarms that
are due, in the order of their times and, at one time, in the order in which they were set.

Time moves only when nothing is left to do at the present instant, and it moves to the next alarm
or to where it was asked to go. So work that one instant causes is done before the clock moves on.

The loops run on fuel that is computed from the state: `budget` bounds the rounds and the alarms
that a state can still give rise to.
-/

namespace DiagnosticFeed.Schedule

/-- A turn that becomes ready at a time. Orders are distinct. -/
structure Alarm (τ : Type) where
  due : Time
  order : Nat
  turn : τ

/-- States `σ` that evolve by turns `τ`. -/
structure Machine (σ τ : Type) where
  now : σ → Time
  setNow : Time → σ → σ
  alarms : σ → List (Alarm τ)
  /-- The state after a turn, and the turns that it makes ready. -/
  perform : τ → σ → σ × List τ
  /-- A bound on the rounds and alarms to come. -/
  budget : σ → Nat

/-- A state with the turns that are ready and the alarms that have rung at the present instant. -/
structure Agenda (σ τ : Type) where
  state : σ
  ready : List τ := []
  rung : List Nat := []

namespace Machine

variable {σ τ : Type}

/-- Whether an alarm comes before another, or at the same place. -/
def notAfter (a b : Alarm τ) : Bool :=
  a.due < b.due || (a.due == b.due && a.order ≤ b.order)

/-- The alarms that have not rung. -/
def pendingAlarms (m : Machine σ τ) (a : Agenda σ τ) : List (Alarm τ) :=
  (m.alarms a.state).filter fun x ↦ !a.rung.contains x.order

/-- The alarms that are due, in the order in which they ring. -/
def dueAlarms (m : Machine σ τ) (a : Agenda σ τ) : List (Alarm τ) :=
  ((m.pendingAlarms a).filter fun x ↦ x.due ≤ m.now a.state).mergeSort notAfter

def turn (m : Machine σ τ) (a : Agenda σ τ) (t : τ) : Agenda σ τ :=
  let (s, more) := m.perform t a.state
  { a with state := s, ready := a.ready ++ more }

/-- Performs all turns that are ready or due. -/
def round (m : Machine σ τ) (a : Agenda σ τ) : Agenda σ τ :=
  let due := m.dueAlarms a
  (a.ready ++ due.map (·.turn)).foldl m.turn
    { state := a.state, ready := [], rung := a.rung ++ due.map (·.order) }

/-- Whether nothing is left to do at the present instant. -/
def isSettled (m : Machine σ τ) (a : Agenda σ τ) : Bool :=
  a.ready.isEmpty && (m.dueAlarms a).isEmpty

/-- At most `n` rounds, until nothing is left to do. -/
def settleWithin (m : Machine σ τ) : Nat → Agenda σ τ → Agenda σ τ
  | 0, a => a
  | n + 1, a => if m.isSettled a then a else m.settleWithin n (m.round a)

/-- A bound on the rounds and alarms to come, those of the turns that are ready among them. -/
def fuel (m : Machine σ τ) (a : Agenda σ τ) : Nat :=
  m.budget a.state + 6 * a.ready.length + 2

/-- Does what is to do at the present instant. -/
def settle (m : Machine σ τ) (a : Agenda σ τ) : Agenda σ τ :=
  m.settleWithin (m.fuel a) a

def nextDue? (m : Machine σ τ) (a : Agenda σ τ) : Option Time :=
  ((m.pendingAlarms a).map (·.due)).min?

/-- Moves the clock on to a time; it never goes back. -/
def moveTo (m : Machine σ τ) (t : Time) (a : Agenda σ τ) : Agenda σ τ :=
  { a with state := m.setNow (max (m.now a.state) t) a.state, rung := [] }

/-- `advance`, with at most `n` stops on the way. -/
def advanceWithin (m : Machine σ τ) (goal : Time) : Nat → Agenda σ τ → Agenda σ τ
  | 0, a => a
  | n + 1, a =>
    let a := m.settle a
    match m.nextDue? a with
    | some t => if t ≤ goal then m.advanceWithin goal n (m.moveTo t a) else m.moveTo goal a
    | none => m.moveTo goal a

/-- Lets time pass until `goal`, doing everything on the way. -/
def advance (m : Machine σ τ) (goal : Time) (a : Agenda σ τ) : Agenda σ τ :=
  m.advanceWithin goal (m.fuel a) a

/-- `join`, with at most `n` stops on the way. -/
def joinWithin (m : Machine σ τ) (busy : σ → Bool) : Nat → Agenda σ τ → Agenda σ τ
  | 0, a => a
  | n + 1, a =>
    let a := m.settle a
    if busy a.state then
      match m.nextDue? a with
      | some t => m.joinWithin busy n (m.moveTo t a)
      | none => a
    else a

/-- Lets time pass until the machine is not busy any more. -/
def join (m : Machine σ τ) (busy : σ → Bool) (a : Agenda σ τ) : Agenda σ τ :=
  m.joinWithin busy (m.fuel a) a

/-- How often an idle machine is looked at. -/
def pollInterval : Time := .ofMilliseconds 10

/-- The first time to look, `interval` apart from now on, that is not before the next alarm. -/
def pollTime (interval now next : Time) : Time :=
  now + interval * max 1 ((next - now + interval - 1) / interval)

/-- Lets time pass until the next alarm was seen to ring. While anything is left to do now, this is
the next time to look. -/
def poll (m : Machine σ τ) (interval : Time) (a : Agenda σ τ) : Agenda σ τ :=
  let now := m.now a.state
  let next := if m.isSettled a then (m.nextDue? a).getD now else now
  m.advance (pollTime interval now next) a

/-- `waitIdle`, with at most `n` looks. -/
def waitIdleWithin (m : Machine σ τ) (busy pending : σ → Bool) (interval : Time) :
    Nat → Agenda σ τ → Agenda σ τ
  | 0, a => a
  | n + 1, a =>
    if busy a.state then m.waitIdleWithin busy pending interval n (m.join busy a)
    else if pending a.state then m.waitIdleWithin busy pending interval n (m.poll interval a)
    else a

/-- Lets time pass until the machine is neither busy nor has anything pending. While it is busy the
end of the work is waited for; else it is looked at from time to time. -/
def waitIdle (m : Machine σ τ) (busy pending : σ → Bool) (a : Agenda σ τ)
    (interval : Time := pollInterval) : Agenda σ τ :=
  m.waitIdleWithin busy pending interval (m.fuel a) a

end Machine

end DiagnosticFeed.Schedule
