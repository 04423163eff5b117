import DiagnosticFeed.Target
import DiagnosticFeed.Wire.Payload

/-!
# Taking in analyzer output

From the text that the analyzer printed to the diagnostics of a document, with their fixes in the
registry. Output that cannot be read counts as no diagnostics and leaves the registry alone, and so
does output with no items.
-/

namespace DiagnosticFeed.Wire

/-- What findings of a document are read against in an analysis of the given target. -/
def Subject.of (cwd : FilePath) (d : Document) (t : Target) : Subject :=
  ⟨d.uri, .ofDocument d, t.paths, cwd⟩

/-- What came of a text that the analyzer printed. -/
structure Intake where
  diagnostics : List Diagnostic
  registry : FixRegistry
  /-- Why the text could not be read. -/
  failure : Option Failure := none

/-- The aliases of a document in an analysis of the given target: the path of a temporary one. -/
def withAliases (r : FixRegistry) (uri : String) (t : Target) : FixRegistry :=
  match Target.present? t.analysis with
  | some p => if t.temporary then r.setAliases uri [p] else r
  | none => r

/-- Takes in what the analyzer printed about a document; diagnostics are numbered from `next`. -/
def intake (cwd : FilePath) (r : FixRegistry) (next : Nat) (d : Document) (t : Target)
    (stdout : String) : Intake :=
  match items stdout with
  | .error e => ⟨[], r, some e⟩
  | .ok [] => ⟨[], r, none⟩
  | .ok found =>
    let (ds, r) := enroll d.uri next (withAliases r d.uri t) (findings (.of cwd d t) found)
    ⟨ds, r, none⟩

end DiagnosticFeed.Wire
