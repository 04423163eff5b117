import DiagnosticFeed.Diagnostic
import DiagnosticFeed.Keyed

/-!
# Displayed diagnostics

What is shown for each document, in the order in which documents first got an entry. A document
with an entry of no diagnostics was analyzed and found clean; one without an entry was not analyzed.
-/

namespace DiagnosticFeed

/-- Diagnostics by document. -/
abbrev Display := Keyed String (List Diagnostic)

namespace Display

def shown (d : Display) (uri : String) : List Diagnostic :=
  (Keyed.get? d uri).getD []

def clear (_ : Display) : Display := []

end Display

end DiagnosticFeed
