import DiagnosticFeed.Diagnostic
import DiagnosticFeed.FixRegistry
import DiagnosticFeed.Json.Reader
import DiagnosticFeed.Text.Blank

/-!
# Analyzer output

The analyzer prints one JSON object with an array of items. Each item that has a usable location in
the document under analysis is a finding; items that have none, or that are not even objects, are
passed over and do not affect their neighbours. Printing nothing is printing no items.

A finding is a diagnostic that has no identity yet, with its fixes. Findings get identities, and
their fixes a place in the registry, when they are enrolled.
-/

namespace DiagnosticFeed.Wire

/-- What a document's findings are read against: its lines as they are now, the normal forms of
the paths that stand for it, and the working directory that other paths are normalized in. -/
structure Subject where
  uri : String
  view : LineView
  targets : List String
  cwd : FilePath

/-- A diagnostic without its identity, and the fixes that came with it. -/
structure Finding where
  span : Span
  message : String
  severity : Severity
  code : Option String
  related : List RelatedNote
  fixes : List Fix
  deriving Inhabited

/-- The items of analyzer output. -/
def items (stdout : String) : Except Failure (List Json.Value) :=
  if Text.isAllBlank stdout then .ok []
  else match Json.parse stdout with
    | .error _ => .error .outputNotJson
    | .ok v =>
      match v.object?.bind fun o ↦ (o.field "diagnostics").array? with
      | some xs => .ok xs
      | none => .error (.outputWithoutList v.kindName)

/-- Whether a location is in the document: its file is one of the targets, or it names none, or
there is nothing to compare with. -/
def Subject.covers (s : Subject) (location : Json.Object) : Bool :=
  s.targets.isEmpty ||
    match (file? location).bind (FilePath.normalText? s.cwd) with
    | none => true
    | some p => s.targets.contains p

/-- The span of a located value in the document. -/
def Subject.spanOf? (s : Subject) (o : Json.Object) : Option Span := do
  let location ← (o.field "location").object?
  if s.covers location then locate? s.view location else none

def noteOf? (s : Subject) (v : Json.Value) : Option RelatedNote := do
  let o ← v.object?
  let span ← s.spanOf? o
  return ⟨s.uri, span, (o.field "message").string?.getD ""⟩

/-- The code that a value spells; any value but nothing and the empty text is one. -/
def codeOf? : Json.Value → Option String
  | .null => none
  | .str s => if s.isEmpty then none else some s
  | v => some v.display

def findingOf? (s : Subject) (item : Json.Value) : Option Finding := do
  let o ← item.object?
  let span ← s.spanOf? o
  return {
    span := span
    message := (o.field "message").string?.getD ""
    severity := Severity.ofJson (o.field "severity")
    code := codeOf? (o.field "code")
    related := ((o.field "notes").array?.getD []).filterMap (noteOf? s)
    fixes := ((o.field "fixes").array?.getD []).filterMap fun f ↦ f.object?.map Fix.ofJson }

def findings (s : Subject) (items : List Json.Value) : List Finding :=
  items.filterMap (findingOf? s)

/-- A finding as a diagnostic of the given identity. -/
def Finding.toDiagnostic (f : Finding) (id : Nat) : Diagnostic :=
  { id := id, span := f.span, message := f.message, severity := f.severity, code := f.code,
    related := f.related }

/-- Gives findings identities from `next` on and registers their fixes. -/
def enroll (uri : String) : Nat → FixRegistry → List Finding → List Diagnostic × FixRegistry
  | _, registry, [] => ([], registry)
  | next, registry, f :: fs =>
    let (ds, registry) := enroll uri (next + 1) (registry.register uri next f.fixes) fs
    (f.toDiagnostic next :: ds, registry)

end DiagnosticFeed.Wire
