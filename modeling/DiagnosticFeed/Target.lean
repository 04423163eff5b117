import DiagnosticFeed.FilePath

/-!
# What is analyzed

The path that the analyzer is given for a document, with the normal forms of that path and of the
document's own. The path is a temporary one when the document as it stands is on no disk and had to
be written out first.
-/

namespace DiagnosticFeed

/-- A path to analyze. -/
structure Target where
  /-- The path as the analyzer is given it. -/
  path : String
  /-- Its normal form. -/
  analysis : Option String := none
  /-- The normal form of the document's own path. -/
  document : Option String := none
  /-- Whether the path is to be removed after the analysis. -/
  temporary : Bool := false
  deriving DecidableEq

namespace Target

/-- A text that is there and not empty. -/
def present? (s : Option String) : Option String :=
  s.filter (!·.isEmpty)

/-- The normal forms that stand for the document in the analyzer's output. -/
def paths (t : Target) : List String :=
  ((present? t.document).toList ++ (present? t.analysis).toList).eraseDups

/-- The directory that the analyzer runs in: the document's own, else the workspace folder, else
the one of the path that is analyzed. -/
def directory? (t : Target) (root : Option FilePath) : Option FilePath :=
  let parentOf (s : Option String) := (present? s).map fun p ↦ (FilePath.ofString p).parent
  parentOf t.document <|> root <|> parentOf t.analysis <|> parentOf (some t.path)

end Target

end DiagnosticFeed
