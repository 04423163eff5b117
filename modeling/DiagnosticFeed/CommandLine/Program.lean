import DiagnosticFeed.CommandLine.Check
import DiagnosticFeed.Config.Installed
import DiagnosticFeed.Config.Load
import DiagnosticFeed.Entrypoint

/-!
# The program

What the program does with its arguments, from what it is given to what can be seen of it: the exit
code, what is printed, what is logged and which runs are started, and the files it leaves. A failure
that the program has no answer to takes the place of the exit code.

Until a configuration file is read only warnings are logged, or everything when debugging.
-/

namespace DiagnosticFeed.CommandLine

/-- What the program is given. -/
structure World where
  disk : Disk
  environment : Config.Environment := []
  /-- What reads the configuration and puts settings together. -/
  library : Config.Library := .installed
  /-- What becomes of the runs of the analyzer, in the order in which they are started. -/
  runs : List Run := []
  /-- Why nothing can be printed, if so: standard output may be closed, or lack a code for a
  character. -/
  outputFault : Option Failure := none

/-- What can be seen of the program when it is done. -/
structure Outcome where
  exit : Except Failure ExitCode
  printed : Printed := {}
  seen : List Event := []
  disk : Disk

/-- Whether an event can be seen while a level is in force. -/
def isSeen (level : Log.Level) : Event → Bool
  | .logged _ n => n.record.level.passes level
  | _ => true

/-- The level in force before a configuration is read. -/
def Arguments.level (a : Arguments) : Log.Level :=
  if a.debug then .debug else .warning

/-- An outcome with nothing but a notice. -/
def complaint (level : Log.Level) (disk : Disk) (n : Log.Notice) : Outcome where
  exit := .ok .trouble
  seen := [Event.logged none n].filter (isSeen level)
  disk := disk

/-- An outcome with nothing but a failure. -/
def broken (disk : Disk) (e : Failure) : Outcome where
  exit := .error e
  disk := disk

/-- The outcome of a configuration that cannot be had. -/
def misconfigured (w : World) (a : Arguments) (e : Failure) : Outcome :=
  if e.isMissing || e.isConfiguration then
    complaint a.level w.disk (.configurationInvalid e.message)
  else broken w.disk e

/-- The outcome of a file that cannot be read. -/
def unreadable (level : Log.Level) (disk : Disk) (p : FilePath) (e : Failure) : Outcome :=
  if e.isSystem || e == .undecodable then
    complaint level disk (.fileUnreadable p.toText e.message)
  else broken disk e

/-- What becomes of an outcome when it is printed. A failure to print takes the place of the exit
code. -/
def Outcome.delivered (o : Outcome) (w : World) : Outcome :=
  match w.outputFault with
  | none => o
  | some e =>
    if o.printed.stdout.isEmpty then o
    else { o with exit := .error e, printed := { o.printed with stdout := "" } }

/-! ## The commands -/

/-- The configuration. A file that is named without a path cannot be looked for. -/
def configuration (w : World) (a : Arguments) : Except Failure Settings :=
  match a.config with
  | none => Config.load w.library w.disk w.environment none
  | some (some p) => Config.load w.library w.disk w.environment (some p)
  | some none => .error .unable

def tryConfiguration (w : World) (a : Arguments) : Outcome :=
  match configuration w a with
  | .error e => misconfigured w a e
  | .ok settings =>
    match w.library.dump settings with
    | .error e => broken w.disk e
    | .ok text => { exit := .ok .ok, printed := { stdout := line text }, disk := w.disk }

def lensLine (p : FilePath) (l : Entrypoint.Lens) : String :=
  let name := (l.function.filter (!·.isEmpty)).getD "<unknown>"
  line (p.toText ++ ":" ++ toString (l.span.start.line + 1) ++ ": " ++ l.title ++ " " ++ name
    ++ " (" ++ l.command ++ ")")

def listEntrypoints (w : World) (a : Arguments) (p : FilePath) : Outcome :=
  match Document.ofFile w.disk p defaultLanguage with
  | .error e => unreadable a.level w.disk p e
  | .ok d => {
      exit := .ok .ok
      printed :=
        { stdout := String.join ((Entrypoint.lenses d defaultLanguage).map (lensLine p)) }
      disk := w.disk }

/-- What is asked of the log once a configuration file is read. -/
def logRequest (a : Arguments) (s : LogSettings) : Log.Request where
  level := some (if a.debug then Log.Level.debug.name else s.level.name)
  format := some s.format.name
  file := if s.fileEnabled then some (some s.file.toText) else none
  fileEnabled := s.fileEnabled

/-- The level in force during a check, and the files after the log was set up. -/
def setUpLog (w : World) (a : Arguments) (s : LogSettings) : Except Failure (Log.Level × Disk) :=
  match a.config with
  | none => .ok (a.level, w.disk)
  | some _ => (Log.setUp w.disk (logRequest a s)).map fun (setup, disk) ↦ (setup.level, disk)

/-- What was seen in a session while a level is in force. -/
def seenIn (level : Log.Level) (s : Session) : List Event :=
  s.bench.journal.reverse.filter (isSeen level)

def outcomeOf (level : Log.Level) (s : Session) (r : CheckRequest) : Outcome :=
  match r.timeout with
  | none => { exit := .error .wrongKind, seen := seenIn level s, disk := s.bench.disk }
  | some limit =>
    let waited := await s limit
    let s := waited.session
    if waited.inTime then {
      exit := .ok (verdict s r)
      printed := printed s r
      seen := seenIn level (afterReport s r)
      disk := s.bench.disk }
    else { exit := .ok .trouble, seen := seenIn level s, disk := s.bench.disk }

def checkWith (level : Log.Level) (disk : Disk) (runs : List Run) (settings : AnalyzerSettings)
    (r : CheckRequest) : Outcome :=
  match openFiles disk settings.language r.files with
  | .error (p, e) => unreadable level disk p e
  | .ok documents =>
    match r.folders disk.cwd with
    | .error e => broken disk e
    | .ok folders =>
      let s := sessionFor disk settings folders documents runs
      match s.start (List.range documents.length) with
      | .error e => broken disk e
      | .ok s => outcomeOf level s r

def check (w : World) (a : Arguments) (r : CheckRequest) : Outcome :=
  match configuration w a with
  | .error e => misconfigured w a e
  | .ok settings =>
    match setUpLog w a settings.log with
    | .error e => broken w.disk e
    | .ok (level, disk) => checkWith level disk w.runs settings.analyzer r

/-- What the program does with its arguments once the log is set up. -/
def perform (w : World) (a : Arguments) : Outcome :=
  if a.dryRun then tryConfiguration w a
  else
    match a.command with
    | some (.entrypoints p) => listEntrypoints w a p
    | some (.check r) => check w a r
    | none => { exit := .ok .trouble, printed := { stderr := line usage }, disk := w.disk }

def run (w : World) (a : Arguments) : Outcome :=
  if a.format.isSome then (perform w a).delivered w else broken w.disk .unable

end DiagnosticFeed.CommandLine
