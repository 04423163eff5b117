import DiagnosticFeed.Schedule.Limit
import DiagnosticFeed.Session.Clockwork

/-!
# Waiting for a limited time

Waiting for a session to become idle, at most for a given time. Whoever waits for attempts that are
under way gives them up with the wait. At first, up to the end of the first interval between two
looks at the session, nobody waits for attempts yet, so until then nothing is given up.
-/

namespace DiagnosticFeed

namespace Session

open Schedule

/-- Cancels an attempt and lets it come to its end. -/
def abandon (s : Session) (id : Nat) : Session :=
  ((s.cancel id).proceed id maxSteps).settle id

/-- Gives up all attempts that are under way. -/
def giveUpAll (s : Session) : Session :=
  (s.attempts.map (·.id)).foldl abandon s

/-- What is reached at a deadline. -/
def reach (deadline : Time) (a : Agenda Session Turn) : Agenda Session Turn :=
  if deadline - a.state.now ≤ Machine.pollInterval then machine.advance deadline a
  else
    let before := machine.advance (deadline - 1) a
    machine.moveTo deadline { before with state := before.state.giveUpAll }

/-- Waits for a session to become idle, at most as long as the limit says; if it is not idle before
the limit is reached, this is the failure. Also without any time, what is ready is begun; if there
is some, a session that is idle already is not waited for. -/
def waitAtMost (limit : Limit) (a : Agenda Session Turn) :
    Except Failure Unit × Agenda Session Turn :=
  let timedOut (a : Agenda Session Turn) : Except Failure Unit × Agenda Session Turn :=
    (.error (timeoutFailure limit none),
      { a with state := a.state.log a.state.host (.timedOut limit.given) })
  if limit.seconds.isNotPositive then timedOut (machine.round (machine.round a))
  else
    let idle := waitIdle a
    match limit.span? with
    | none => (.ok (), idle)
    | some span =>
      let deadline := a.state.now + span
      if idle.state.now < deadline || !(a.state.busy || a.state.hasPending) then (.ok (), idle)
      else timedOut (reach deadline a)

end Session

end DiagnosticFeed
