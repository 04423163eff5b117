import DiagnosticFeed.Config.Field
import DiagnosticFeed.Config.Library

/-!
# Checking settings

From unchecked data to settings, as the installed library goes. Every field is checked, so all that
is wrong is told at once, each fault with the place of its field. A field that is not given has its
usual value. Sections may hold fields that are not known; the outermost level may not.
-/

namespace DiagnosticFeed.Config

namespace Verdict

variable {α β : Type}

/-- Applies a function to an argument. If both are faulty, all faults are told. -/
def app (f : Verdict (α → β)) (a : Verdict α) : Verdict β :=
  match f, a with
  | .ok f, .ok a => .ok (f a)
  | .error es, .ok _ => .error es
  | .ok _, .error es => .error es
  | .error es, .error es' => .error (es ++ es')

/-- A fault at a place. -/
def fault (place : List String) (e : FieldError) : Verdict α :=
  .error [⟨place, e⟩]

end Verdict

open Verdict

/-- A field of a section at `place`. -/
def field {α : Type} (place : List String) (o : Entries) (name : String) (usual : α)
    (check : Datum → Checked α) : Verdict α :=
  match Datum.lookup name o with
  | none => .ok usual
  | some d =>
    match check d with
    | .ok a => .ok a
    | .error e => fault (place ++ [name]) e

/-- The executable that data names, which is checked after blanks and the usual one are dealt
with. -/
def executable (d : Datum) : Checked String :=
  text (.text (executableOf d))

def analyzerOf (place : List String) (o : Entries) : Verdict AnalyzerSettings :=
  let usual : AnalyzerSettings := {}
  app (app (app (app (app (.ok AnalyzerSettings.mk)
    (field place o "executable_path" usual.executable executable))
    (field place o "debounce_ms" usual.debounceMs (intBetween 0 10000)))
    (field place o "max_diagnostics" usual.maxDiagnostics (intBetween 1 10000)))
    (field place o "temp_dir" usual.scratch path))
    (field place o "language_id" usual.language text)

/-- A section of a larger one, which must be a mapping if it is given. -/
def section_ {α : Type} (place : List String) (o : Entries) (name : String) (usual : α)
    (check : List String → Entries → Verdict α) : Verdict α :=
  match Datum.lookup name o with
  | none => .ok usual
  | some (.map inner) => check (place ++ [name]) inner
  | some _ => fault (place ++ [name]) .notASection

/-- Whether there is a log file, and its path, from the entries of their section. -/
def logFileOf (place : List String) (o : Entries) : Verdict (Bool × FilePath) :=
  let usual : LogSettings := {}
  app (app (.ok Prod.mk) (field place o "enabled" usual.fileEnabled bool))
    (field place o "path" usual.file path)

def logOf (place : List String) (o : Entries) : Verdict LogSettings :=
  let usual : LogSettings := {}
  app (app (app (.ok fun level format file ↦ LogSettings.mk level format file.1 file.2)
    (field place o "level" usual.level (choice Log.Level.ofName?)))
    (field place o "format" usual.format (choice Log.Format.ofName?)))
    (section_ place o "file" (usual.fileEnabled, usual.file) logFileOf)

def unknownKeys (o : Entries) : List String :=
  (o.filterMap (·.1.text?)).filter fun k ↦ !sectionNames.contains k

def settingsOf (o : Entries) : Verdict Settings :=
  let known : Verdict Settings := app (app (.ok Settings.mk)
    (section_ [] o "analyzer" {} analyzerOf)) (section_ [] o "logging" {} logOf)
  match unknownKeys o with
  | [] => known
  | ks =>
    let unknown := ks.map fun k ↦ (⟨[k], .unknownField⟩ : FieldIssue)
    match known with
    | .ok _ => .error unknown
    | .error es => .error (es ++ unknown)

end DiagnosticFeed.Config
