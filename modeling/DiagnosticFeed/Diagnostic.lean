import DiagnosticFeed.Span
import DiagnosticFeed.Severity

/-!
# Diagnostics

A finding about one version of a document. Each diagnostic has an identity of its own, by which
its fixes are remembered; two findings with the same text are still two diagnostics.
-/

namespace DiagnosticFeed

/-- The source that the analyzer's diagnostics carry. -/
def analyzerSource : String := "surge"

/-- A second place that a diagnostic points to. -/
structure RelatedNote where
  uri : String
  span : Span
  message : String
  deriving DecidableEq, Inhabited

/-- A finding. -/
structure Diagnostic where
  id : Nat
  span : Span
  message : String
  severity : Severity := .error
  code : Option String := none
  source : String := analyzerSource
  related : List RelatedNote := []
  deriving DecidableEq, Inhabited

def RelatedNote.toJson (n : RelatedNote) : Json.Value :=
  .obj [("uri", .str n.uri), ("range", n.span.toJson), ("message", .str n.message)]

/-- A diagnostic's fields as JSON; the code and the notes only if there are any. -/
def Diagnostic.entries (d : Diagnostic) : Json.Object :=
  [("range", d.span.toJson), ("message", .str d.message), ("severity", .str d.severity.word),
    ("source", .str d.source)]
    ++ (match d.code with
      | some c => [("code", .str c)]
      | none => [])
    ++ (if d.related.isEmpty then []
      else [("relatedInformation", .arr (d.related.map RelatedNote.toJson))])

end DiagnosticFeed
