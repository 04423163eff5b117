import DiagnosticFeed.Analyzer.Client
import DiagnosticFeed.Display
import DiagnosticFeed.Event
import DiagnosticFeed.Metrics.Pipeline

/-!
# Running the analyzer

A bench is all that a run of the analyzer touches: the files, the client, what is displayed and what
the user was told, the metrics, and the journal. A run is announced, then it starts or does not, and
in the end its answer is taken in; these are three steps.

A missing executable clears what is displayed; every other failure to start leaves it as it is.
-/

namespace DiagnosticFeed

/-- What runs of the analyzer touch. -/
structure Bench where
  disk : Disk
  client : Client
  /-- How the coming runs go. When they are used up, runs print nothing. -/
  runs : List Run := []
  display : Display := []
  /-- What the user was told. -/
  warnings : List String := []
  /-- In whole numbers. `Proofs.Session.Counted` tells how far binary64 numbers say the same. -/
  metrics : Metrics Int := {}
  journal : Journal := []

/-- What came of starting a run. -/
inductive Launch where
  | started (run : Run)
  /-- It could not be started. -/
  | refused
  /-- Starting it broke. -/
  | broke (e : Failure)

namespace Bench

def log (b : Bench) (bound : Option String) (n : Log.Notice) : Bench :=
  { b with journal := b.journal.log bound n }

def warn (b : Bench) (bound : Option String) (message : String) : Bench :=
  { b with warnings := b.warnings ++ [message] }.log bound (.userWarning message)

def countFailure (b : Bench) (reason : String) : Bench :=
  { b with metrics := b.metrics.fail reason }

/-- Takes note that the executable is not there: the user is told once, and nothing is displayed
any more. -/
def missExecutable (b : Bench) (bound : Option String) (e : Failure) : Bench :=
  let told := b.client.told
  let b := { b.countFailure "not_found" with client := b.client.missed }
  let b := b.log bound (.executableMissing b.client.executable e.message told)
  let b := if told then b else b.warn bound Client.missingWarning
  { b with display := b.display.clear }

/-- Takes note of a run that did not start. -/
def refuse (b : Bench) (bound : Option String) (directory : Option String) (e : Failure) :
    Launch × Bench :=
  match Client.refusal directory e with
  | .executableMissing => (.refused, b.missExecutable bound e)
  | .directoryMissing =>
    (.refused, (b.countFailure "cwd").log bound (.directoryMissing (directory.getD "") e.message))
  | .other =>
    (.refused, (b.countFailure "spawn").log bound (.spawnFailed b.client.executable e.message))
  | .unforeseen => (.broke e, b)

/-- Announces a run and takes the next one. -/
def announce (b : Bench) (now : Time) (bound : Option String) (path : String)
    (directory : Option String) : Run × Bench :=
  let command := b.client.command path
  let content := ((b.disk.startingIn directory).content? (FilePath.ofString path)).map
    Content.decodeRepaired
  let b := { b with metrics := b.metrics.touch now }.log bound (.spawning command directory)
  (b.runs.headD {},
    { b with runs := b.runs.tail, journal := .spawned command directory content :: b.journal })

/-- Why an announced run will not start. -/
def startFailure? (b : Bench) (run : Run) (directory : Option String) : Option Failure :=
  run.startFault.map fun f ↦ f.failure b.client.executable directory

/-- Takes note of how the start of an announced run went. -/
def takeUp (b : Bench) (bound : Option String) (directory : Option String) (run : Run)
    (failure : Option Failure) : Launch × Bench :=
  match failure with
  | some e => b.refuse bound directory e
  | none =>
    (.started run,
      { b with
        metrics := { b.metrics with
          runs := b.metrics.runs.add [] 1
          inFlight := b.metrics.inFlight.add [] 1 } })

/-- Starts a run of the analyzer on a path. Without a path there is nothing to run. -/
def launch (b : Bench) (now : Time) (bound : Option String) (path : String)
    (directory : Option FilePath) : Launch × Bench :=
  if path.isEmpty then (.refused, b)
  else
    let directory := directory.map FilePath.toText
    let (run, b) := b.announce now bound path directory
    b.takeUp bound directory run (b.startFailure? run directory)

/-- Takes in the end of a run. -/
def finish (b : Bench) (bound : Option String) (run : Run) (path : String) :
    Except Failure Answer × Bench :=
  let b := { b with
    metrics := { b.metrics with inFlight := b.metrics.inFlight.add [] (-1) } }
  match run.waitFault with
  | some message => (.error (.broken message), b)
  | none =>
    let answer := run.answer path
    (.ok answer,
      { b with client := b.client.ended }.log bound
        (.exited answer.exitCode answer.stdout.length))

/-- A whole run of the analyzer that nobody disturbs: what it came to, which is nothing if it did
not start, and when it ended. -/
def invoke (b : Bench) (now : Time) (bound : Option String) (path : String)
    (directory : Option FilePath) : Except Failure (Option Answer) × Bench × Time :=
  match b.launch now bound path directory with
  | (.refused, b) => (.ok none, b, now)
  | (.broke e, b) => (.error e, b, now)
  | (.started run, b) =>
    let (outcome, b) := b.finish bound run path
    (outcome.map some, b, now + run.duration)

end Bench

end DiagnosticFeed
