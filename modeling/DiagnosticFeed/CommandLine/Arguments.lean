import DiagnosticFeed.CommandLine.Grammar
import DiagnosticFeed.Decimal.Reading
import DiagnosticFeed.FilePath
import DiagnosticFeed.Log.Setup
import DiagnosticFeed.Schedule.Limit

/-!
# Arguments

What can be asked for on the command line: to check files, to list the entrypoints of a file, or to
try the configuration only; and how the words for it are read.
-/

namespace DiagnosticFeed.CommandLine

/-- How a report is laid out. -/
inductive ReportStyle where
  | text
  | json
  deriving DecidableEq

def ReportStyle.name : ReportStyle → String
  | text => "text"
  | json => "json"

def ReportStyle.ofName? (s : String) : Option ReportStyle :=
  [text, json].find? fun r ↦ r.name == s

/-- The value of an option; `none` if it was given without one. -/
abbrev Given (α : Type) := Option α

/-- The value of an option under a reading that may refuse it. -/
def Given.read {α : Type} (f : String → Option α) : Option String → Option (Given α)
  | some v => (f v).map some
  | none => some none

/-- The limit when none is given. -/
def defaultLimit : Schedule.Limit where
  seconds := .whole 120
  given := .float 120

/-- The limit that a text gives. -/
def readLimit? (s : String) : Option Schedule.Limit :=
  (Decimal.readFloat? s.toList).map fun x ↦ .ofSeconds (.decimal x)

/-- What is asked of a check. -/
structure CheckRequest where
  files : List FilePath := []
  style : Given ReportStyle := some .text
  /-- The workspace folders, if any are given. -/
  workspace : Option (List (Given FilePath)) := none
  /-- How many seconds all analyses may take. -/
  timeout : Given Schedule.Limit := some defaultLimit
  withFixes : Bool := false
  withMetrics : Bool := false

/-- What to do. -/
inductive Command where
  | check (r : CheckRequest)
  | entrypoints (file : FilePath)

/-- What is asked for. -/
structure Arguments where
  config : Option (Given FilePath) := none
  debug : Bool := false
  format : Given Log.Format := some .console
  dryRun : Bool := false
  command : Option Command := none

/-- The files that are asked about, the configuration first. -/
def Arguments.paths (a : Arguments) : List FilePath :=
  (a.config.bind id).toList ++ match a.command with
    | some (.check r) => r.files
    | some (.entrypoints p) => [p]
    | none => []

/-- The option that asks for help. -/
def helpRule {σ : Type} : Rule σ := ⟨["-h", "--help"], .stop .help⟩

/-- How the words for a check are read. -/
def checkGrammar : Grammar CheckRequest where
  rules := [
    helpRule,
    ⟨["--output"], .value fun v r ↦
      (Given.read ReportStyle.ofName? v).map fun style ↦ { r with style := style }⟩,
    ⟨["--workspace"], .value fun v r ↦
      some { r with workspace := some (r.workspace.getD [] ++ [v.map FilePath.ofString]) }⟩,
    ⟨["--timeout"], .value fun v r ↦
      (Given.read readLimit? v).map fun limit ↦ { r with timeout := limit }⟩,
    ⟨["--fixes"], .set fun r ↦ { r with withFixes := true }⟩,
    ⟨["--metrics"], .set fun r ↦ { r with withMetrics := true }⟩]
  shape := .many
  take := fun files r ↦ .ok ({ r with files := files.map FilePath.ofString }, false)

/-- How the words for a list of entrypoints are read. -/
def entrypointsGrammar : Grammar (Option FilePath) where
  rules := [helpRule]
  shape := .one
  take := fun files _ ↦ .ok (files.head?.map FilePath.ofString, false)

/-- Reads the words behind the name of a command. -/
def readCommand (name : String) (texts : List String) : Except Stop (Command × Bool) := do
  match name with
  | "check" =>
    let p ← checkGrammar.read texts {}
    if p.taken then return (.check p.settings, p.stray) else throw .misuse
  | "entrypoints" =>
    let p ← entrypointsGrammar.read texts none
    match p.settings with
    | some file => return (.entrypoints file, p.stray)
    | none => throw .misuse
  | _ => throw .misuse

/-- How a whole command line is read. -/
def grammar : Grammar Arguments where
  rules := [
    helpRule,
    ⟨["--version"], .stop .version⟩,
    ⟨["-c", "--config"], .value fun v a ↦
      some { a with config := some (v.map FilePath.ofString) }⟩,
    ⟨["-d", "--debug"], .set fun a ↦ { a with debug := true }⟩,
    ⟨["--format"], .value fun v a ↦
      (Given.read Log.Format.ofName? v).map fun format ↦ { a with format := format }⟩,
    ⟨["--dry-run"], .set fun a ↦ { a with dryRun := true }⟩]
  shape := .rest
  take := fun texts a ↦
    match texts with
    | [] => .error .misuse
    | name :: texts => (readCommand name texts).map fun (c, stray) ↦
        ({ a with command := some c }, stray)

def Arguments.read (texts : List String) : Except Stop Arguments := do
  let p ← grammar.read texts {}
  if p.stray then throw .misuse else return p.settings

def Stop.exitCode : Stop → Nat
  | misuse => 2
  | help | version => 0

/-- What there is to say about the command line. -/
def usage : String := "usage: surge-diagnostics [-h] \x7bcheck,entrypoints\x7d ..."

def Stop.stdout : Stop → String
  | misuse => ""
  | help => usage ++ "\n"
  | version => Log.service ++ " " ++ Log.version ++ "\n"

end DiagnosticFeed.CommandLine
