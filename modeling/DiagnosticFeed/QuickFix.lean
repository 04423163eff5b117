import DiagnosticFeed.Diagnostic
import DiagnosticFeed.FixRegistry

/-!
# Quick fixes

What a user is offered for a diagnostic: each of its fixes as an edit of the open document. Of a
fix only the edits count that are for this document, by its path or by one of its aliases, or that
name no file; they are located in the text as it is now. A fix with no such edit is not offered.
-/

namespace DiagnosticFeed

/-- A replacement in one document. -/
structure TextEdit where
  span : Span
  newText : String
  deriving DecidableEq, Inhabited

/-- Replacements by document. -/
abbrev WorkspaceEdit := Keyed String (List TextEdit)

namespace WorkspaceEdit

def replace (w : WorkspaceEdit) (uri : String) (e : TextEdit) : WorkspaceEdit :=
  Keyed.set w uri ((Keyed.get? w uri).getD [] ++ [e])

/-- Whether any document has a replacement. -/
def changesAnything (w : WorkspaceEdit) : Bool :=
  w.any fun e ↦ !e.2.isEmpty

end WorkspaceEdit

/-- A quick fix for one diagnostic. -/
structure QuickFix where
  title : String
  edit : WorkspaceEdit
  diagnostic : Diagnostic
  preferred : Option Bool
  documentation : Option String
  deriving Inhabited

namespace QuickFix

def kind : String := "quickfix"

/-- The title of a fix that has none. -/
def defaultTitle : String := "Apply Surge fix"

/-- What becomes of one edit of a fix. -/
inductive EditFate where
  /-- It is for another file, the one named. -/
  | elsewhere (target : String)
  /-- It has no usable location. -/
  | unplaced
  | placed (e : TextEdit)

/-- The normal forms of the paths that an edit of a document may name. -/
def acceptedPaths (cwd : FilePath) (r : FixRegistry) (d : Document) : List String :=
  r.aliasesFor d.uri ++ (d.path.bind fun p ↦ FilePath.normalText? cwd p.toText).toList

/-- What becomes of an edit in a document, given by the paths for it and its lines. -/
def fate (cwd : FilePath) (accepted : List String) (view : Wire.LineView) (e : FixEdit) :
    EditFate :=
  let target := e.file?.bind (FilePath.normalText? cwd)
  match target.filter fun t ↦ !accepted.contains t with
  | some t => .elsewhere t
  | none =>
    match e.location.bind (Wire.locate? view) with
    | some span => .placed ⟨span, e.newText⟩
    | none => .unplaced

def EditFate.edit? : EditFate → Option TextEdit
  | .placed e => some e
  | _ => none

def EditFate.elsewhere? : EditFate → Option String
  | .elsewhere t => some t
  | _ => none

/-- A fix of a diagnostic, with what becomes of each of its edits. -/
structure Candidate where
  diagnostic : Diagnostic
  fix : Fix
  fates : List EditFate

/-- The fixes of diagnostics in a document. Diagnostics of another source have none. -/
def candidates (cwd : FilePath) (r : FixRegistry) (d : Document) (gs : List Diagnostic) :
    List Candidate :=
  let accepted := acceptedPaths cwd r d
  let view := Wire.LineView.ofDocument d
  (gs.filter (·.source == analyzerSource)).flatMap fun g ↦
    (r.fixesFor g.id).map fun f ↦ ⟨g, f, f.edits.map (fate cwd accepted view)⟩

/-- The quick fix of a fix, if it changes the document. -/
def ofCandidate? (uri : String) (c : Candidate) : Option QuickFix :=
  let edits := c.fates.filterMap EditFate.edit?
  if edits.isEmpty then none
  else some {
    title := c.fix.title.getD defaultTitle
    edit := [(uri, edits)]
    diagnostic := c.diagnostic
    preferred := c.fix.preferred
    documentation := c.fix.documentation? }

/-- The quick fixes for a list of diagnostics, and the files of the edits passed over, in the order
in which they were met. -/
def offered (cwd : FilePath) (r : FixRegistry) (d : Document) (gs : List Diagnostic) :
    List QuickFix × List String :=
  let cs := candidates cwd r d gs
  (cs.filterMap (ofCandidate? d.uri), cs.flatMap fun c ↦ c.fates.filterMap EditFate.elsewhere?)

end QuickFix

end DiagnosticFeed
