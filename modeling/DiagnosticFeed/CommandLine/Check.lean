import DiagnosticFeed.CommandLine.Arguments
import DiagnosticFeed.Json.Writer
import DiagnosticFeed.Report
import DiagnosticFeed.Session.Deadline

/-!
# Checking files

A check opens files as documents, has a session analyze each of them once, and reports what is
displayed at the end. The outcome is trouble if a file cannot be read, if time runs out, if the
analyzer is missing, or if a file got no result; otherwise it depends on whether errors were found.
-/

namespace DiagnosticFeed.CommandLine

/-- What the program came to. -/
inductive ExitCode where
  /-- All is well. -/
  | ok
  /-- Errors were found. -/
  | findings
  /-- The work could not be done. -/
  | trouble
  deriving DecidableEq

def ExitCode.number : ExitCode → Nat
  | ok => 0
  | findings => 1
  | trouble => 2

/-- What is printed. -/
structure Printed where
  stdout : String := ""
  stderr : String := ""

/-- A text as lines of its own. -/
def line (s : String) : String :=
  s ++ "\n"

/-! ## From files to a session that is done -/

/-- The documents of files, or the first file that cannot be read. -/
def openFiles (disk : Disk) (language : String) :
    List FilePath → Except (FilePath × Failure) (List Document)
  | [] => .ok []
  | p :: ps =>
    match Document.ofFile disk p language with
    | .error e => .error (p, e)
    | .ok d => (openFiles disk language ps).map (d :: ·)

/-- The folders that a check works in: those that are given, or else the working directory. A
folder without a path is none to work in. -/
def CheckRequest.folders (r : CheckRequest) (cwd : FilePath) : Except Failure (List FilePath) :=
  match r.workspace with
  | some (p :: ps) =>
    match (p :: ps).mapM id with
    | some folders => .ok folders
    | none => .error .unable
  | _ => .ok [cwd]

/-- The session that checks documents. Nobody edits them meanwhile, so there is no quiet period. -/
def sessionFor (disk : Disk) (settings : AnalyzerSettings) (folders : List FilePath)
    (documents : List Document) (runs : List Run) : Session :=
  Session.open_ disk { settings with debounceMs := 0 } documents (some folders) runs

/-- A session that was waited for, and whether it was idle in time. -/
structure Waited where
  session : Session
  inTime : Bool

/-- Waits until a session that was started is idle. What is ready when time runs out still takes
place. -/
def await (s : Session) (limit : Schedule.Limit) : Waited :=
  let (waited, a) := Session.waitAtMost limit { state := s }
  match waited with
  | .ok _ => ⟨a.state.stop, true⟩
  | .error e =>
    let a := { a with state := (a.state.log a.state.host (.checkTimedOut e.message)).stop }
    ⟨(Session.machine.round (Session.machine.round a)).state, false⟩

/-! ## Reporting -/

/-- A diagnostic with the quick fixes for it, if they were asked for. -/
structure Finding where
  diagnostic : Diagnostic
  fixes : Option (List QuickFix)

/-- What was found in a file. -/
structure FileResult where
  document : Document
  findings : List Finding

def hasResult (s : Session) (d : Document) : Bool :=
  Keyed.has s.bench.display d.uri

/-- The documents that got no result. -/
def missing (s : Session) : List Document :=
  s.documents.filter fun d ↦ !hasResult s d

def resultOf (s : Session) (withFixes : Bool) (d : Document) : FileResult where
  document := d
  findings :=
    let fixes := if withFixes then some (s.quickFixes d (s.shown d)) else none
    (s.shown d).map fun g ↦ ⟨g, fixes.map fun qs ↦ qs.filter (·.diagnostic.id == g.id)⟩

def results (s : Session) (withFixes : Bool) : List FileResult :=
  (s.documents.filter (hasResult s)).map (resultOf s withFixes)

/-- A session after the quick fixes of all results were asked for. -/
def afterResults (s : Session) (withFixes : Bool) : Session :=
  if withFixes then
    (s.documents.filter (hasResult s)).foldl (fun s d ↦ s.afterOffer d (s.shown d)) s
  else s

def hasErrors (rs : List FileResult) : Bool :=
  rs.any fun r ↦ r.findings.any fun f ↦ f.diagnostic.severity == .error

def pathText (d : Document) : String :=
  (d.path.map FilePath.toText).getD "None"

def Finding.toJson (f : Finding) : Json.Value :=
  .obj (f.diagnostic.entries ++ f.fixes.toList.map fun qs ↦
    ("fixes", .arr (qs.map fun q ↦ .obj
      [("title", .str q.title), ("preferred", Json.Value.ofOption .bool q.preferred)])))

def FileResult.toJson (r : FileResult) : Json.Value :=
  .obj [("path", .str (pathText r.document)), ("uri", .str r.document.uri),
    ("diagnostics", .arr (r.findings.map Finding.toJson))]

def FileResult.toReport (r : FileResult) : Report.File where
  path := pathText r.document
  entries := r.findings.map fun f ↦
    Report.Entry.ofDiagnostic f.diagnostic ((f.fixes.getD []).map (·.title))

def report (style : Given ReportStyle) (rs : List FileResult) : String :=
  match style with
  | some .json =>
    line ((Json.Value.obj [("results", .arr (rs.map FileResult.toJson))]).indented .ascii)
  | some .text | none =>
    let text := Report.text (rs.map FileResult.toReport)
    if text.isEmpty then "" else line text

def metricsText (s : Session) : String :=
  line ((Json.Value.obj (s.bench.metrics.report Float.ofInt s.now)).indented .ascii)

/-- How a check ends whose session was idle in time. -/
def verdict (s : Session) (r : CheckRequest) : ExitCode :=
  if s.bench.client.isUnavailable || !(missing s).isEmpty then .trouble
  else if hasErrors (results s r.withFixes) then .findings
  else .ok

/-- What a check prints whose session was idle in time. -/
def printed (s : Session) (r : CheckRequest) : Printed :=
  let metrics := if r.withMetrics then metricsText s else ""
  if s.bench.client.isUnavailable then
    { stderr := metrics ++ String.join (s.bench.warnings.map line) }
  else
    { stdout := report r.style (results s r.withFixes)
      stderr := metrics ++ String.join ((missing s).map fun d ↦
        line (pathText d ++ ": analyzer produced no result")) }

/-- A session after its results were reported. -/
def afterReport (s : Session) (r : CheckRequest) : Session :=
  if s.bench.client.isUnavailable then s else afterResults s r.withFixes

end DiagnosticFeed.CommandLine
