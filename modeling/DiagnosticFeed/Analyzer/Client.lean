import DiagnosticFeed.Analyzer.Run

/-!
# The analyzer client

How the analyzer is called, and whether it can be. An executable that is not there makes the
analyzer unavailable until the client is reset, and no run that ends meanwhile changes that. The
user is told once.
-/

namespace DiagnosticFeed

/-- Whether the analyzer can be run, as far as it was tried. -/
inductive Availability where
  | unknown
  | available
  | unavailable
  deriving DecidableEq, Repr

def Availability.word : Availability → String
  | unknown => "unknown"
  | available => "available"
  | unavailable => "unavailable"

/-- What is called, with which limit, and what is known about it. -/
structure Client where
  executable : String
  maxDiagnostics : Int
  availability : Availability := .unknown
  /-- Whether the user was told that the executable is missing. -/
  told : Bool := false

namespace Client

def isUnavailable (c : Client) : Bool :=
  c.availability == .unavailable

/-- Forgets what is known, for a new executable if one is given. -/
def reset (c : Client) (executable : Option String) : Client where
  executable := executable.getD c.executable
  maxDiagnostics := c.maxDiagnostics

def command (c : Client) (path : String) : List String :=
  [c.executable, "diag", "--format", "json", "--stages", "sema", "--max-diagnostics",
    toString c.maxDiagnostics, "--with-notes", "--suggest", "--preview", "--fullpath", path]

/-- The client after a run ended: the analyzer is there, unless it went missing meanwhile. -/
def ended (c : Client) : Client :=
  if c.isUnavailable then c else { c with availability := .available }

/-- The client after its executable was not found. -/
def missed (c : Client) : Client :=
  { c with availability := .unavailable, told := true }

/-- What the user is told about a missing executable. -/
def missingWarning : String :=
  "Surge executable not found. Semantic analysis is disabled."

/-- What a failed start means. -/
inductive Refusal where
  | executableMissing
  | directoryMissing
  | other
  /-- It is none of the operating system's refusals. -/
  | unforeseen
  deriving DecidableEq

/-- What a failed start in a directory means. A file that is not there is the executable, unless it
is the directory that the run was to start in. -/
def refusal (directory : Option String) : Failure → Refusal
  | .system .notFound path =>
    if directory.isSome && path == directory then .directoryMissing else .executableMissing
  | .system .. => .other
  | _ => .unforeseen

end Client

end DiagnosticFeed
