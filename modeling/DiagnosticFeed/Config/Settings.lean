import DiagnosticFeed.Config.Datum
import DiagnosticFeed.FilePath
import DiagnosticFeed.Log.Setup
import DiagnosticFeed.Text.Blank
import DiagnosticFeed.Time

/-!
# Settings

What can be configured, with the values that hold when nothing is.
-/

namespace DiagnosticFeed

/-- The executable that is run when no other is named. -/
def defaultExecutable : String := "surge"

/-- How the analyzer is run. -/
structure AnalyzerSettings where
  executable : String := defaultExecutable
  /-- How long a document must be quiet before it is analyzed, in milliseconds. -/
  debounceMs : Int := 500
  maxDiagnostics : Int := 200
  /-- Where snapshots are written. -/
  scratch : FilePath := ⟨.root, ["tmp", "surge-vscode"]⟩
  language : String := "surge"

/-- How the log is written. -/
structure LogSettings where
  level : Log.Level := .info
  format : Log.Format := .console
  fileEnabled : Bool := false
  file : FilePath := ⟨.relative, ["surge-diagnostics.log"]⟩

structure Settings where
  analyzer : AnalyzerSettings := {}
  log : LogSettings := {}

def Config.sectionNames : List String := ["analyzer", "logging"]

/-- The executable that data names. Blank text and anything that is no text stand for the usual
one. -/
def Config.executableOf : Datum → String
  | .text s =>
    let name := Text.trimmed s
    if name.isEmpty then defaultExecutable else name
  | _ => defaultExecutable

def AnalyzerSettings.debounce (s : AnalyzerSettings) : Time :=
  .ofMilliseconds s.debounceMs

/-- Settings as JSON, under the names by which they are given. -/
def AnalyzerSettings.toJson (s : AnalyzerSettings) : Json.Value :=
  .obj [("executable_path", .str s.executable), ("debounce_ms", .int s.debounceMs),
    ("max_diagnostics", .int s.maxDiagnostics), ("temp_dir", .str s.scratch.toText),
    ("language_id", .str s.language)]

def LogSettings.toJson (s : LogSettings) : Json.Value :=
  .obj [("level", .str s.level.name), ("format", .str s.format.name),
    ("file", .obj [("enabled", .bool s.fileEnabled), ("path", .str s.file.toText)])]

/-- Settings as JSON, under the names by which they are given. -/
def Settings.toJson (s : Settings) : Json.Value :=
  .obj [("analyzer", s.analyzer.toJson), ("logging", s.log.toJson)]

end DiagnosticFeed
