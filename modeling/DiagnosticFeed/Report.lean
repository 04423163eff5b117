import DiagnosticFeed.Json.Display
import DiagnosticFeed.Diagnostic

/-!
# Reports

The diagnostics of some files for a person to read: a line per diagnostic with its place counted
from one, and below it a line per note and a line per fix. Entries hold what is shown, as text.
-/

namespace DiagnosticFeed.Report

/-- A note of a reported diagnostic. -/
structure Note where
  place : String
  message : String

structure Entry where
  place : String
  severity : String
  message : String
  /-- What stands in brackets; nothing does if it is empty. -/
  code : String
  notes : List Note
  fixTitles : List String

structure File where
  path : String
  entries : List Entry

/-- A place counted from one. -/
def placeText (p : Position) : String :=
  toString (p.line + 1) ++ ":" ++ toString (p.character + 1)

def entryLines (path : String) (e : Entry) : List String :=
  (path ++ ":" ++ e.place ++ ": " ++ e.severity ++ ": " ++ e.message
      ++ (if e.code.isEmpty then "" else " [" ++ e.code ++ "]"))
    :: (e.notes.map fun n ↦ "    note " ++ n.place ++ ": " ++ n.message)
    ++ e.fixTitles.map fun t ↦ "    fix: " ++ t

def text (files : List File) : String :=
  "\n".intercalate (files.flatMap fun f ↦ f.entries.flatMap (entryLines f.path))

/-- A diagnostic with the titles of the fixes offered for it. -/
def Entry.ofDiagnostic (d : Diagnostic) (fixTitles : List String) : Entry where
  place := placeText d.span.start
  severity := d.severity.word
  message := d.message
  code := d.code.getD ""
  notes := d.related.map fun n ↦ ⟨placeText n.span.start, n.message⟩
  fixTitles := fixTitles

end DiagnosticFeed.Report
