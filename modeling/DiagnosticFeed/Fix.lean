import DiagnosticFeed.Wire.Location
import DiagnosticFeed.Json.Display

/-!
# Suggested fixes

A fix is a titled list of edits, still in wire coordinates: an edit is located only when it is
offered, in the text as it is then. What a payload spells wrongly is read as absent.
-/

namespace DiagnosticFeed

/-- One replacement of a fix. The lines before and after it are a preview. -/
structure FixEdit where
  location : Option Json.Object
  newText : String
  before : Option (List String)
  after : Option (List String)
  deriving Inhabited

/-- A suggested set of edits. -/
structure Fix where
  title : Option String
  edits : List FixEdit
  preferred : Option Bool
  deriving Inhabited

namespace FixEdit

/-- The file that an edit is for, if it names one. -/
def file? (e : FixEdit) : Option String :=
  e.location.bind Wire.file?

/-- The lines of a preview. -/
def previewLines (v : Json.Value) : Option (List String) :=
  v.array?.map fun items ↦ items.map Json.Value.display

def ofJson (o : Json.Object) : FixEdit where
  location := (o.field "location").object?
  newText := (o.field "new_text").string?.getD ""
  before := previewLines (o.field "before_lines")
  after := previewLines (o.field "after_lines")

end FixEdit

namespace Fix

def ofJson (o : Json.Object) : Fix where
  title := (o.field "title").string?.bind fun t ↦ if t.isEmpty then none else some t
  edits := ((o.field "edits").array?.getD []).filterMap fun e ↦ e.object?.map FixEdit.ofJson
  preferred := match o.field "isPreferred" with
    | .bool b => some b
    | _ => (o.field "is_preferred").bool?

/-- The lines of a preview as one text; a preview of no lines, or of one empty line, is none. -/
def previewText? (lines : Option (List String)) : Option String :=
  lines.bind fun ls ↦
    let text := "\n".intercalate ls
    if text.isEmpty then none else some text

/-- A preview under a heading, as a block of code. -/
def previewBlock (heading text : String) : String :=
  "**" ++ heading ++ "**\n```surge\n" ++ text ++ "\n```"

/-- The first preview among the edits of a fix. -/
def documentation? (f : Fix) : Option String :=
  f.edits.findSome? fun e ↦
    match previewText? e.before, previewText? e.after with
    | none, none => none
    | some b, none => some (previewBlock "Before" b)
    | none, some a => some (previewBlock "After" a)
    | some b, some a => some (previewBlock "Before" b ++ "\n" ++ previewBlock "After" a)

end Fix

end DiagnosticFeed
