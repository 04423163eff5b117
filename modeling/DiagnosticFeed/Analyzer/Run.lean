import DiagnosticFeed.Disk
import DiagnosticFeed.Time

/-!
# Analyzer runs

How one run of the analyzer goes, as the program sees it from outside: whether it starts, how long
it takes, what it prints and how it exits. What it prints may depend on the path it is given.
-/

namespace DiagnosticFeed

/-- Why a run does not start. -/
inductive StartFault where
  | executableMissing
  | directoryMissing
  | denied
  | badFormat
  | breaks
  deriving DecidableEq

/-- How a run goes. -/
structure Run where
  stdout : String → Content := fun _ ↦ .text ""
  stderr : String → Content := fun _ ↦ .text ""
  exitCode : Option Int := some 0
  /-- How long it takes. -/
  duration : Time := 0
  startFault : Option StartFault := none
  /-- What goes wrong while it is waited for. -/
  waitFault : Option String := none

/-- The failure that a run that does not start comes to. -/
def StartFault.failure (executable : String) (directory : Option String) : StartFault → Failure
  | executableMissing => .system .notFound (some executable)
  | directoryMissing => .system .notFound directory
  | denied => .system .accessDenied (some executable)
  | badFormat => .system .badFormat (some executable)
  | breaks => .broken "boom"

/-- What the analyzer answered. -/
structure Answer where
  stdout : String
  stderr : String
  exitCode : Int
  deriving DecidableEq

/-- The answer of a run that ended; output that is no text is repaired. -/
def Run.answer (r : Run) (path : String) : Answer where
  stdout := (r.stdout path).decodeRepaired
  stderr := (r.stderr path).decodeRepaired
  exitCode := r.exitCode.getD 0

end DiagnosticFeed
