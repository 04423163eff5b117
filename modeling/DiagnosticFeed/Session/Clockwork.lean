import DiagnosticFeed.Schedule.Machine
import DiagnosticFeed.Session.Attempt

/-!
# A session over time

A session as a machine: expired quiet periods and ended runs are its alarms. An attempt takes all
its steps in one turn until it has to wait for the analyzer; its files are had at once.
-/

namespace DiagnosticFeed.Session

open Schedule

/-- The turns of a session. Quiet periods are named by their order, attempts by their number. -/
inductive Turn where
  | fire (order : Nat)
  | start (id : Nat)
  | ring (id : Nat)
  | wake (id : Nat)
  | settle (id : Nat)

/-- How many steps an attempt takes at most. -/
def maxSteps : Nat := 6

/-- Takes the steps of an attempt that it can take now. -/
def proceed (s : Session) (id : Nat) : Nat → Session
  | 0 => s
  | n + 1 => (s.step id).proceed id n

def hasEnded (s : Session) (id : Nat) : Bool :=
  match s.attempt? id with
  | some ⟨_, _, _, .ended ..⟩ => true
  | _ => false

/-- Takes the steps of an attempt; if it has ended by then, this is to be made known. -/
def goOn (s : Session) (id : Nat) : Session × List Turn :=
  let s := s.proceed id maxSteps
  (s, if s.hasEnded id then [.settle id] else [])

def perform (t : Turn) (s : Session) : Session × List Turn :=
  match t with
  | .fire order => (s.fire order, if (s.debounce.timer? order).isSome then [.start s.next] else [])
  | .start id => s.goOn id
  | .ring id => (s, [.wake id])
  | .wake id => s.goOn id
  | .settle id => (s.settle id, [])

/-- The alarm of an attempt that waits for the analyzer. -/
def Attempt.alarm? (a : Attempt) : Option (Alarm Turn) :=
  match a.stage with
  | .running _ _ _ _ due order => some ⟨due, order, .ring a.id⟩
  | _ => none

def alarms (s : Session) : List (Alarm Turn) :=
  (s.debounce.timers.map fun t ↦ ⟨t.due, t.order, .fire t.order⟩)
    ++ s.attempts.filterMap Attempt.alarm?

/-- How many attempts are under way. -/
def openCount (s : Session) : Nat :=
  (s.attempts.filter (·.stage.isOpen)).length

/-- A session as a machine. -/
def machine : Machine Session Turn where
  now := (·.now)
  setNow := fun t s ↦ { s with now := t }
  alarms := alarms
  perform := perform
  budget := fun s ↦ 6 * (s.openCount + s.debounce.timers.length)

/-- Whether attempts that quiet periods started are under way. -/
def busy (s : Session) : Bool :=
  s.inFlight != 0

def hasPending (s : Session) : Bool :=
  s.pending != 0

/-- Lets time pass until no quiet period is running and every attempt that one started has
ended. -/
def waitIdle (a : Agenda Session Turn) : Agenda Session Turn :=
  machine.waitIdle busy hasPending a

end DiagnosticFeed.Session
