import DiagnosticFeed.Analyzer.Bench
import DiagnosticFeed.Config.Settings
import DiagnosticFeed.Log.Scope
import DiagnosticFeed.QuickFix
import DiagnosticFeed.Schedule.Debounce
import DiagnosticFeed.Snapshot
import DiagnosticFeed.Wire.Intake
import DiagnosticFeed.Workspace

/-!
# Sessions

A session keeps what is displayed for its documents in step with the analyzer. Changes start quiet
periods; an expired one starts an attempt to analyze its document, and several attempts can be under
way at once. This module holds the state of a session and what its editor can ask of it; the steps
of an attempt are in `Session.Attempt`.

Attempts that have ended stay in the list, so that it tells the whole history.

What the session logs by itself is logged where its editor acts. An attempt logs in a scope of its
own, which begins with what was bound where it was asked for, or where the quiet period began that
it was started by.
-/

namespace DiagnosticFeed

/-- Why an attempt was made. -/
inductive Origin where
  /-- A quiet period expired. -/
  | timer
  /-- It was asked for directly; such calls are counted from one. -/
  | call (number : Nat)
  deriving DecidableEq

/-- What an attempt fixes at its start. -/
structure Begun where
  startedAt : Time
  ticket : Ticket
  deriving DecidableEq

/-- What an attempt came to: the diagnostics it published, or none. -/
abbrev Result := Except Failure (Option (List Diagnostic))

/-- How far an attempt is. -/
inductive Stage where
  | created
  /-- The scratch directory is being made for a snapshot of `text` at `path`. -/
  | makingRoom (begun : Begun) (target : Target) (path : FilePath) (text : String)
  /-- The snapshot is being written. -/
  | writing (begun : Begun) (target : Target) (path : FilePath) (text : String)
  /-- The analyzer is being started in a directory; whether it will is settled already. -/
  | spawning (begun : Begun) (target : Target) (snapshot : Option FilePath) (run : Run)
    (directory : Option String) (failure : Option Failure)
  /-- The analyzer is running, until the time `due`. -/
  | running (begun : Begun) (target : Target) (snapshot : Option FilePath) (run : Run) (due : Time)
    (order : Nat)
  /-- The snapshot is being removed; what the analyzer came to is known. -/
  | cleaning (begun : Begun) (target : Target) (snapshot : FilePath)
    (outcome : Except Failure (Option Answer))
  /-- It has ended; it had begun unless the analyzer was unavailable, or it was cancelled before. -/
  | ended (begun : Option Begun) (result : Result)
  /-- It has ended, and whoever waits for it knows. -/
  | settled (begun : Option Begun) (result : Result)

/-- An attempt to analyze a document. -/
structure Attempt where
  id : Nat
  /-- Which document. -/
  doc : Nat
  origin : Origin
  stage : Stage

/-- Whether an attempt is still under way. -/
def Stage.isOpen : Stage → Bool
  | .settled .. => false
  | _ => true

/-- The state of a session. -/
structure Session where
  documents : List Document
  settings : AnalyzerSettings
  bench : Bench
  scratch : Scratch
  debounce : Schedule.Debounce
  /-- The workspace folders, if the editor has any notion of them. -/
  workspace : Option (List FilePath) := none
  registry : FixRegistry := {}
  attempts : List Attempt := []
  now : Time := 0
  /-- The next number to name an attempt or an alarm. -/
  next : Nat := 0
  /-- The identity of the next diagnostic. -/
  nextDiagnostic : Nat := 0
  /-- How many attempts were asked for directly. -/
  calls : Nat := 0
  /-- The document that is bound where the editor acts. -/
  host : Option String := none
  /-- The scopes of quiet periods and of attempts, by their numbers. -/
  scopes : Log.Scopes := []

namespace Session

/-- A session that starts on the given files. -/
def open_ (disk : Disk) (settings : AnalyzerSettings) (documents : List Document)
    (workspace : Option (List FilePath)) (runs : List Run) : Session where
  documents := documents
  settings := settings
  bench := {
    disk := disk
    client := { executable := settings.executable, maxDiagnostics := settings.maxDiagnostics }
    runs := runs }
  scratch := { directory := settings.scratch }
  debounce := { delay := settings.debounce, language := some settings.language }
  workspace := workspace.map (Workspace.open_ disk.cwd)

def cwd (s : Session) : FilePath :=
  s.bench.disk.cwd

def log (s : Session) (bound : Option String) (n : Log.Notice) : Session :=
  { s with bench := s.bench.log bound n }

/-- Whether triggers are taken at all. -/
def enabled (s : Session) : Bool :=
  !s.bench.client.isUnavailable

def attempt? (s : Session) (id : Nat) : Option Attempt :=
  s.attempts.find? (·.id == id)

def pending (s : Session) : Nat :=
  s.debounce.pending

/-- How many attempts that quiet periods started are under way. -/
def inFlight (s : Session) : Nat :=
  (s.attempts.filter fun a ↦ a.origin == .timer && a.stage.isOpen).length

def shown (s : Session) (d : Document) : List Diagnostic :=
  s.bench.display.shown d.uri

/-! ## Documents -/

def modifyDocument (s : Session) (doc : Nat) (f : Document → Document) : Session :=
  { s with documents := s.documents.modify doc f }

def setText (s : Session) (doc : Nat) (text : String) : Session :=
  s.modifyDocument doc (·.setText text)

def closeDocument (s : Session) (doc : Nat) : Session :=
  s.modifyDocument doc (·.close)

/-- Moves on to other files. -/
def withDisk (s : Session) (disk : Disk) : Session :=
  { s with bench := { s.bench with disk := disk } }

/-- Saves a document. A failure comes with the session as it leaves it. -/
def save (s : Session) (doc : Nat) : Except (Failure × Session) Session :=
  match s.documents[doc]? with
  | none => .ok s
  | some d =>
    match d.save s.bench.disk with
    | .ok (d, disk) => .ok ((s.modifyDocument doc fun _ ↦ d).withDisk disk)
    | .error (e, disk) => .error (e, s.withDisk disk)

/-! ## Triggers -/

/-- Whether a trigger for a document starts a quiet period. -/
def accepts (s : Session) (doc : Nat) : Bool :=
  match s.documents[doc]? with
  | some d => s.debounce.verdict s.enabled d == .started
  | none => false

/-- A trigger for a document. -/
def trigger (s : Session) (doc : Nat) : Session :=
  match s.documents[doc]? with
  | none => s
  | some d =>
    let notice := s.debounce.notice? s.enabled d
    let started := s.debounce.verdict s.enabled d == .started
    let s := { s with
      debounce := s.debounce.trigger s.enabled s.now s.next doc d
      next := s.next + 1
      scopes := if started then s.scopes.start s.next s.host else s.scopes }
    match notice with
    | some n => s.log s.host n
    | none => s

def triggerAll (s : Session) (docs : List Nat) : Session :=
  docs.foldl trigger s

/-- Forgets a document that is closed: no quiet period, no fixes, nothing displayed. -/
def forget (s : Session) (doc : Nat) : Session :=
  match s.documents[doc]? with
  | none => s
  | some d =>
    { s with
      debounce := s.debounce.cancel d.uri
      registry := s.registry.invalidate d.uri
      bench := { s.bench with display := Keyed.erase s.bench.display d.uri } }

/-! ## The life of a session -/

/-- Makes the scratch directory and triggers for the documents that are open already. -/
def start (s : Session) (docs : List Nat) : Except Failure Session := do
  let s ← match s.bench.disk.makeDirectory s.scratch.directory with
    | .ok disk => pure (s.withDisk disk)
    | .error e =>
      if e.isSystem then
        pure (s.log s.host (.scratchDirectoryFailed s.scratch.directory.toText e.message))
      else throw e
  let s := s.log s.host (.analyzerStarted s.bench.client.executable s.settings.debounceMs)
  return s.triggerAll docs

/-- Ends all quiet periods. -/
def stop (s : Session) : Session :=
  { s with debounce := s.debounce.cancelAll }.log s.host .analyzerStopped

/-- Takes on new settings. A new executable is a new chance for the analyzer, so what is known of it
is forgotten and the given documents are triggered for. -/
def reconfigure (s : Session) (settings : AnalyzerSettings) (docs : List Nat) : Session :=
  let changed := settings.executable != s.bench.client.executable
  let s := { s with
    settings := settings
    debounce := { s.debounce with delay := settings.debounce } }
  if changed then
    let client := s.bench.client.reset (some settings.executable)
    let s := { s with bench := { s.bench with client := client } }
    (s.log s.host (.executableChanged settings.executable)).triggerAll docs
  else s

/-- Asks for an attempt directly. It is named by the number `next`. -/
def call (s : Session) (doc : Nat) : Session :=
  { s with
    attempts := s.attempts ++ [⟨s.next, doc, .call (s.calls + 1), .created⟩]
    next := s.next + 1
    calls := s.calls + 1
    scopes := s.scopes.start s.next s.host }

/-! ## Quick fixes -/

def quickFixes (s : Session) (d : Document) (gs : List Diagnostic) : List QuickFix :=
  (QuickFix.offered s.cwd s.registry d gs).1

/-- A session after its quick fixes were asked for: the edits passed over are logged. -/
def afterOffer (s : Session) (d : Document) (gs : List Diagnostic) : Session :=
  (QuickFix.offered s.cwd s.registry d gs).2.foldl
    (fun s target ↦ s.log s.host (.editSkipped d.uri target)) s

end Session

end DiagnosticFeed
