import DiagnosticFeed.Session.State
import DiagnosticFeed.Text.Blank

/-!
# The steps of an attempt

An attempt notes the version of its document, has it on disk, starts the analyzer on it and waits
for it, removes the snapshot if there was one, and publishes what the analyzer found, unless the
document has changed or was closed meanwhile. Between two steps anything else can happen, also steps
of other attempts.

Only the last step changes what is displayed and which fixes are known. Whatever goes wrong on the
way, a snapshot that was written is removed.

From its first step to its end, an attempt that is not turned down has its document bound in its
scope, in which all that it logs is logged.
-/

namespace DiagnosticFeed.Session

def setStage (s : Session) (id : Nat) (stage : Stage) : Session :=
  { s with
    attempts := s.attempts.map fun a ↦ if a.id == id then { a with stage := stage } else a }

/-- Ends an attempt. One that had begun leaves nothing bound. -/
def finish (s : Session) (a : Attempt) (begun : Option Begun) (result : Result) : Session :=
  let metrics := match begun with
    | some b => s.bench.metrics.observe [] (Time.elapsed b.startedAt s.now)
    | none => s.bench.metrics
  let scopes := match begun with
    | some _ => s.scopes.unbind a.id
    | none => s.scopes
  { s with bench := { s.bench with metrics := metrics }, scopes := scopes }.setStage a.id
    (.ended begun result)

/-- Replaces what is displayed for a document, and its fixes, by what the analyzer printed. -/
def publish (s : Session) (bound : Option String) (d : Document) (version : Int) (target : Target)
    (stdout : String) : Session × List Diagnostic :=
  let got := Wire.intake s.cwd (s.registry.invalidate d.uri) s.nextDiagnostic d target stdout
  let s := match got.failure with
    | some e => s.log bound (.unreadableOutput e.message stdout.length)
    | none => s
  let count := got.diagnostics.length
  let s := { s with
    registry := got.registry
    nextDiagnostic := s.nextDiagnostic + count
    bench := { s.bench with
      display := Keyed.set s.bench.display d.uri got.diagnostics
      metrics := { s.bench.metrics with
        published := s.bench.metrics.published.add [] (count : Int) } } }
  (s.log bound (.published version count), got.diagnostics)

/-- Counts and logs a result that is stale. -/
def discard (s : Session) (bound : Option String) (d : Document) (ticket : Ticket) : Session :=
  { s with
    bench := { s.bench with
      metrics := { s.bench.metrics with
        discarded := s.bench.metrics.discarded.add [] 1 } } }.log
    bound (.staleResult ticket.version d.version d.closed)

/-- Logs what else an answer tells. -/
def noteAnswer (s : Session) (bound : Option String) (answer : Answer) : Session :=
  let told := Text.trimmed answer.stderr
  let s := if told.isEmpty then s else s.log bound (.errorOutput told)
  if answer.exitCode > 1 then
    { s with bench := s.bench.countFailure "exit_code" }.log bound (.badExit answer.exitCode)
  else s

/-- What is bound in the scope of an attempt. -/
def boundIn (s : Session) (a : Attempt) : Option String :=
  (s.scopes.scope a.id).bound

/-- What becomes of an attempt once the analyzer is done and nothing is left to remove. -/
def conclude (s : Session) (a : Attempt) (d : Document) (begun : Begun) (target : Target)
    (outcome : Except Failure (Option Answer)) : Session :=
  match outcome with
  | .error e => s.finish a (some begun) (.error e)
  | .ok none => s.finish a (some begun) (.ok none)
  | .ok (some answer) =>
    if begun.ticket.isCurrent d then
      let bound := s.boundIn a
      let (s, ds) := (s.noteAnswer bound answer).publish bound d begun.ticket.version target
        answer.stdout
      s.finish a (some begun) (.ok (some ds))
    else (s.discard (s.boundIn a) d begun.ticket).finish a (some begun) (.ok none)

/-- Goes on after the analyzer is done: with the snapshot's removal, or with the end. -/
def afterRun (s : Session) (a : Attempt) (d : Document) (begun : Begun) (target : Target)
    (snapshot : Option FilePath) (outcome : Except Failure (Option Answer)) : Session :=
  match snapshot with
  | some p => s.setStage a.id (.cleaning begun target p outcome)
  | none => s.conclude a d begun target outcome

/-- The workspace folder of a document. -/
def rootOf (s : Session) (d : Document) : Option FilePath :=
  s.workspace.bind fun roots ↦ Workspace.rootOf s.cwd roots d

/-- Calls the analyzer on what was prepared. Without a path there is nothing to call it on. -/
def launch (s : Session) (a : Attempt) (d : Document) (begun : Begun) (target : Target)
    (snapshot : Option FilePath) : Session :=
  if target.path.isEmpty then s.afterRun a d begun target snapshot (.ok none)
  else
    let directory := (target.directory? (s.rootOf d)).map FilePath.toText
    let (run, bench) := s.bench.announce s.now (s.boundIn a) target.path directory
    { s with bench := bench }.setStage a.id
      (.spawning begun target snapshot run directory (bench.startFailure? run directory))

/-- Takes in how the start of the analyzer went. -/
def enter (s : Session) (a : Attempt) (d : Document) (begun : Begun) (target : Target)
    (snapshot : Option FilePath) (run : Run) (directory : Option String)
    (failure : Option Failure) : Session :=
  let (launched, bench) := s.bench.takeUp (s.boundIn a) directory run failure
  let s := { s with bench := bench }
  match launched with
  | .started run =>
    { s with next := s.next + 1 }.setStage a.id
      (.running begun target snapshot run (s.now + run.duration) s.next)
  | .refused => s.afterRun a d begun target snapshot (.ok none)
  | .broke e => s.afterRun a d begun target snapshot (.error e)

/-- Begins an attempt: binds its document, notes the document's version, and prepares it for the
analyzer. -/
def begin_ (s : Session) (a : Attempt) (d : Document) : Session :=
  if s.enabled then
    let s := { s with
      bench := { s.bench with metrics := s.bench.metrics.touch s.now }
      scopes := s.scopes.bind a.id d.uri }
    let begun : Begun := ⟨s.now, .capture d⟩
    if Snapshot.isInPlace d then s.launch a d begun (Snapshot.inPlace s.cwd d) none
    else
      let p := Snapshot.nextPath s.scratch d.path
      { s with scratch := Snapshot.take s.scratch }.setStage a.id
        (.makingRoom begun (Snapshot.copyAt s.cwd d p) p d.text)
  else s.finish a none (.ok none)

/-- Gives an attempt up whose snapshot cannot be had. -/
def giveUp (s : Session) (a : Attempt) (begun : Begun) (e : Failure) : Session :=
  (s.log (s.boundIn a) (.snapshotFailed e.message)).finish a (some begun) (.ok none)

/-- Makes the scratch directory for a snapshot. -/
def makeRoom (s : Session) (a : Attempt) (begun : Begun) (target : Target) (p : FilePath)
    (text : String) : Session :=
  match Snapshot.makeRoom s.bench.disk s.scratch p with
  | .error e => s.giveUp a begun e
  | .ok disk =>
    (s.withDisk disk).setStage a.id (.writing begun target p text)

/-- Writes a snapshot and starts the analyzer on it. -/
def write (s : Session) (a : Attempt) (d : Document) (begun : Begun) (target : Target)
    (p : FilePath) (text : String) : Session :=
  match Snapshot.write s.bench.disk p text with
  | .error (e, disk) => (s.withDisk disk).giveUp a begun e
  | .ok disk =>
    let s := s.withDisk disk
    (s.log (s.boundIn a) (Snapshot.writtenNotice p text)).launch a d begun target (some p)

/-- Takes in the end of the analyzer's run. -/
def endRun (s : Session) (a : Attempt) (d : Document) (begun : Begun) (target : Target)
    (snapshot : Option FilePath) (run : Run) : Session :=
  let (outcome, bench) := s.bench.finish (s.boundIn a) run target.path
  { s with bench := bench }.afterRun a d begun target snapshot (outcome.map some)

/-- Removes a snapshot. A removal that breaks is logged and keeps nothing from going on. -/
def clean (s : Session) (a : Attempt) (d : Document) (begun : Begun) (target : Target)
    (p : FilePath) (outcome : Except Failure (Option Answer)) : Session :=
  let bound := s.boundIn a
  let s := match Snapshot.delete s.bench.disk p with
    | .ok (disk, notices) =>
      notices.foldl (fun (s : Session) n ↦ s.log bound n) (s.withDisk disk)
    | .error e => s.log bound (.cleanupFailed target.path e.message)
  s.conclude a d begun target outcome

/-- Whether an attempt can take its next step: it has one, and the run it waits for is over. -/
def canStep (s : Session) (a : Attempt) : Bool :=
  match a.stage with
  | .running _ _ _ _ due _ => due ≤ s.now
  | .ended .. | .settled .. => false
  | _ => true

def stepAttempt (s : Session) (a : Attempt) (d : Document) : Session :=
  match a.stage with
  | .created => s.begin_ a d
  | .makingRoom begun target p text => s.makeRoom a begun target p text
  | .writing begun target p text => s.write a d begun target p text
  | .spawning begun target snapshot run directory failure =>
    s.enter a d begun target snapshot run directory failure
  | .running begun target snapshot run _ _ => s.endRun a d begun target snapshot run
  | .cleaning begun target p outcome => s.clean a d begun target p outcome
  | .ended .. | .settled .. => s

/-- The next step of the attempt of a number, if it can take one. -/
def step (s : Session) (id : Nat) : Session :=
  match s.attempt? id with
  | none => s
  | some a =>
    match s.documents[a.doc]? with
    | none => s
    | some d => if s.canStep a then s.stepAttempt a d else s

/-- What a cancelled attempt goes on with: it gives up what it waits for. A snapshot is removed all
the same, unless the attempt waits for its removal. -/
def cancelAttempt (s : Session) (a : Attempt) (d : Document) : Session :=
  match a.stage with
  | .created => s.finish a none (.error .cancelled)
  | .makingRoom begun .. | .writing begun .. | .cleaning begun .. =>
    s.finish a (some begun) (.error .cancelled)
  | .spawning begun target snapshot .. => s.afterRun a d begun target snapshot (.error .cancelled)
  | .running begun target snapshot .. =>
    let metrics := { s.bench.metrics with inFlight := s.bench.metrics.inFlight.add [] (-1) }
    { s with bench := { s.bench with metrics := metrics } }.afterRun a d begun target snapshot
      (.error .cancelled)
  | .ended .. | .settled .. => s

def cancel (s : Session) (id : Nat) : Session :=
  match s.attempt? id with
  | none => s
  | some a =>
    match s.documents[a.doc]? with
    | none => s
    | some d => s.cancelAttempt a d

def handBack (s : Session) (number : Nat) (result : Result) : Session :=
  { s with bench := { s.bench with journal := .returned number result :: s.bench.journal } }

/-- Lets whoever waits for an attempt know that it has ended: a result that was asked for directly
is handed back. Where nobody waits, a failure is logged where the attempt was started. -/
def settle (s : Session) (id : Nat) : Session :=
  match s.attempt? id with
  | none => s
  | some a =>
    match a.stage with
    | .ended begun result =>
      let uri := (s.documents[a.doc]?.map Document.uri).getD ""
      let s := match a.origin, result with
        | .call n, result => s.handBack n result
        | .timer, .error .cancelled => s
        | .timer, .error e =>
          s.log (s.scopes.scope id).inherited (.taskFailed ("analysis:" ++ uri) e.message e.kind)
        | .timer, .ok _ => s
      s.setStage id (.settled begun result)
    | _ => s

/-- Starts an attempt for an expired quiet period. The attempt is named by the number `next`. -/
def fire (s : Session) (order : Nat) : Session :=
  match s.debounce.timer? order with
  | none => s
  | some t =>
    if t.due ≤ s.now then
      { s with
        debounce := s.debounce.cancel t.uri
        attempts := s.attempts ++ [⟨s.next, t.doc, .timer, .created⟩]
        next := s.next + 1
        scopes := s.scopes.start s.next (s.scopes.scope order).inherited }
    else s

end DiagnosticFeed.Session
