import DiagnosticFeed.Disk
import DiagnosticFeed.Log.Record

/-!
# Setting up the log

Records go to the error stream and, if wanted, to a file. A log file that cannot be opened is done
without; it never keeps the program from running. Records below the level in force are dropped.
-/

namespace DiagnosticFeed.Log

/-- How records are laid out. -/
inductive Format where
  | json
  | console
  deriving DecidableEq, Repr

namespace Format

def name : Format → String
  | json => "json"
  | console => "console"

def ofName? (s : String) : Option Format :=
  [json, console].find? fun f ↦ f.name == s

end Format

/-- Where records go to. -/
inductive Handler where
  | stream
  | file (path : FilePath)
  deriving DecidableEq

/-- The log in force. -/
structure Setup where
  level : Level
  handlers : List Handler

/-- What is given where text is wanted; `none` is anything else. -/
abbrev Wording := Option String

/-- What is asked of the log. -/
structure Request where
  level : Wording := some "INFO"
  format : Wording := some "console"
  /-- The log file, if one is named. -/
  file : Option Wording := none
  fileEnabled : Bool := false

/-- The file that records are to go to: one is named and wanted. -/
def Request.file? (r : Request) : Except Failure (Option FilePath) :=
  if !r.fileEnabled then .ok none
  else
    match r.file with
    | none | some (some "") => .ok none
    | some (some s) => .ok (some (FilePath.ofString s))
    | some none => .error .wrongKind

/-- Opens a log file in a directory made for it. The directory stays when the file then fails. -/
def openFile (d : Disk) (p : FilePath) : Except Failure Unit × Disk :=
  match d.makeDirectory p.parent with
  | .ok d => (d.check .openLog p, d)
  | .error e => (.error e, d)

/-- The level that a wording names, in any letter case. -/
def Level.ofText (s : String) : Except Failure Level :=
  let upper := Text.upper s
  match Level.ofName? upper with
  | some l => .ok l
  | none => .error (.unknownLevel upper)

/-- The format that a wording names, in any letter case. -/
def Format.ofText (s : String) : Except Failure Format :=
  let lower := Text.lower s
  match Format.ofName? lower with
  | some f => .ok f
  | none => .error (.unknownFormat lower)

/-- Sets up the log. A format that is no text is passed over; a level must be text, which is noticed
last. -/
def setUp (d : Disk) (r : Request) : Except Failure (Setup × Disk) := do
  let level? ← r.level.mapM Level.ofText
  let _ ← r.format.mapM Format.ofText
  let some level := level? | throw .unable
  match ← r.file? with
  | none => return (⟨level, [.stream]⟩, d)
  | some p =>
    match openFile d p with
    | (.ok _, d) => return (⟨level, [.stream, .file p]⟩, d)
    | (.error e, d) => if e.isSystem then return (⟨level, [.stream]⟩, d) else throw e

end DiagnosticFeed.Log
