import DiagnosticFeed.Log.Notice
import DiagnosticFeed.Schedule.Limit
import DiagnosticFeed.Schedule.Machine

/-!
# Background tasks

Tasks that run on their own and are tracked until they end. A task takes some time, may start
another one at its end, and may fail. The failure of a tracked task is logged; that of a task that
somebody waits for, at most for a limited time, is theirs.
-/

namespace DiagnosticFeed.Schedule

/-- What a task does: it waits, is done, and then may start another and may fail. -/
inductive Job where
  | single (name : String) (wait : Time) (failure : Option String)
  | chain (name : String) (wait : Time) (failure : Option String) (next : Job)

namespace Job

def name : Job → String
  | single name _ _ | chain name _ _ _ => name

def wait : Job → Time
  | single _ wait _ | chain _ wait _ _ => wait

/-- The message that a job fails with. -/
def failure : Job → Option String
  | single _ _ failure | chain _ _ failure _ => failure

/-- The job that a job starts. -/
def next? : Job → Option Job
  | single .. => none
  | chain _ _ _ next => some next

/-- How many tasks come of a job. -/
def size : Job → Nat
  | single .. => 1
  | chain _ _ _ next => next.size + 1

end Job

/-- A task that was started and has not been forgotten. -/
structure Task where
  id : Nat
  job : Job
  /-- When it is done, and the order of its alarm; none before it begins to wait. -/
  due : Option (Time × Nat) := none
  /-- Whether it is tracked, or somebody waits for it. -/
  tracked : Bool := true
  /-- Whether it is done. -/
  done : Bool := false

/-- What can be seen of tasks. -/
inductive TaskEvent where
  | logged (notice : Log.Notice)
  | done (name : String) (time : Time)

/-- Tasks under way. -/
structure Tracker where
  tasks : List Task := []
  now : Time := 0
  /-- The next number to name a task or an alarm. -/
  next : Nat := 0
  /-- What was seen, the latest first. -/
  journal : List TaskEvent := []

/-- The turns of a tracker. -/
inductive TaskTurn where
  | start (id : Nat)
  | ring (id : Nat)
  | wake (id : Nat)
  | settle (id : Nat)

namespace Tracker

def task? (t : Tracker) (id : Nat) : Option Task :=
  t.tasks.find? (·.id == id)

def size (t : Tracker) : Nat :=
  (t.tasks.filter (·.tracked)).length

def busy (t : Tracker) : Bool :=
  t.tasks.any (·.tracked)

def isRunning (t : Tracker) (id : Nat) : Bool :=
  t.tasks.any (·.id == id)

def spawn (t : Tracker) (job : Job) (tracked : Bool) : Tracker :=
  { t with
    tasks := t.tasks ++ [{ id := t.next, job := job, tracked := tracked }]
    next := t.next + 1 }

def drop (t : Tracker) (id : Nat) : Tracker :=
  { t with tasks := t.tasks.filter (·.id ≠ id) }

def update (t : Tracker) (id : Nat) (f : Task → Task) : Tracker :=
  { t with tasks := t.tasks.map fun x ↦ if x.id == id then f x else x }

def log (t : Tracker) (n : Log.Notice) : Tracker :=
  { t with journal := .logged n :: t.journal }

/-- Ends the wait of a task, which starts the next one if there is one. -/
def complete (t : Tracker) (x : Task) : Tracker × List TaskTurn :=
  let t := { t with journal := .done x.job.name t.now :: t.journal }.update x.id
    fun x ↦ { x with done := true, due := none }
  match x.job.next? with
  | some job => (t.spawn job true, [.start t.next, .settle x.id])
  | none => (t, [.settle x.id])

/-- Starts the wait of a task. -/
def start (t : Tracker) (x : Task) : Tracker × List TaskTurn :=
  if x.job.wait = 0 then t.complete x
  else
    let due := (t.now + x.job.wait, t.next)
    ({ t.update x.id (fun x ↦ { x with due := some due }) with next := t.next + 1 }, [])

/-- Forgets a task that ended, logging its failure if it is tracked and has one. -/
def conclude (t : Tracker) (x : Task) : Tracker :=
  let t := t.drop x.id
  match x.job.failure with
  | some e =>
    if x.tracked then t.log (.taskFailed x.job.name e (Failure.broken e).kind) else t
  | none => t

def perform (turn : TaskTurn) (t : Tracker) : Tracker × List TaskTurn :=
  match turn with
  | .start id => ((t.task? id).map t.start).getD (t, [])
  | .ring id => (t, [.wake id])
  | .wake id => ((t.task? id).map t.complete).getD (t, [])
  | .settle id => (((t.task? id).map t.conclude).getD t, [])

def alarms (t : Tracker) : List (Alarm TaskTurn) :=
  t.tasks.filterMap fun x ↦ x.due.map fun (due, order) ↦ ⟨due, order, .ring x.id⟩

def machine : Machine Tracker TaskTurn where
  now := (·.now)
  setNow := fun now t ↦ { t with now := now }
  alarms := alarms
  perform := perform
  budget := fun t ↦ 5 * t.tasks.foldl (fun n x ↦ n + x.job.size) 0

/-- What waiting for a job comes to. -/
structure Waited where
  result : Except Failure String
  agenda : Agenda Tracker TaskTurn

/-- Waits for a job, at most as long as the limit says. A job that is not done when the limit is
reached is given up, also if it would be done at that very time; one that does not wait at all is
done before. -/
def withLimit (a : Agenda Tracker TaskTurn) (job : Job) (limit : Option Limit)
    (message : Option String) : Waited :=
  let id := a.state.next
  let started : Agenda Tracker TaskTurn :=
    { a with state := a.state.spawn job false, ready := a.ready ++ [.start id] }
  let ended := machine.join (·.isRunning id) started
  let result := match job.failure with
    | some e => .error (.broken e)
    | none => .ok job.name
  let giveUp (limit : Limit) (a : Agenda Tracker TaskTurn) : Waited :=
    ⟨.error (timeoutFailure limit message), { a with state := a.state.log (.timedOut limit.given) }⟩
  match limit with
  | none => ⟨result, ended⟩
  | some limit =>
    if limit.seconds.isNotPositive then giveUp limit (machine.settle a)
    else
      match limit.span? with
      | none => ⟨result, ended⟩
      | some span =>
        let deadline := a.state.now + span
        if ended.state.now < deadline || job.wait = 0 then ⟨result, ended⟩
        else
          let before := machine.advance (deadline - 1) started
          giveUp limit (machine.advance deadline { before with state := before.state.drop id })

end Tracker

end DiagnosticFeed.Schedule
