import DiagnosticFeed.Wire.Coordinate
import DiagnosticFeed.Document
import DiagnosticFeed.Span

/-!
# Wire locations

A location names a file and the coordinates of a stretch of text, each under one of two spellings of
its key. `locate?` finds the span of a location in a text as the text is now: coordinates beyond the
end are clamped, a missing end falls on the start, and a span that would hold nothing is
widened by one character where its line has one more.

The text is given by its lines alone, so a text whose lines cannot all be read is covered as well.
-/

namespace DiagnosticFeed.Wire

/-- A text as a number of lines and a way to read them. -/
structure LineView where
  lineCount : Int
  line? : Int → Option String

/-- The lines of a document, which are found once for all places in it. -/
def LineView.ofDocument (d : Document) : LineView :=
  let lines := d.lines
  ⟨lines.length, Document.lineOf? lines⟩

/-- The first of several keys that has a value. -/
def firstPresent (o : Json.Object) : List String → Json.Value
  | [] => .null
  | k :: ks => if (o.field k).isNull then firstPresent o ks else o.field k

/-- The coordinates of a location, counted from zero. -/
structure Extent where
  startLine : Nat
  startCharacter : Nat
  stopLine : Nat
  stopCharacter : Nat
  deriving DecidableEq

/-- The coordinates of a location. A missing or unreadable end falls on the start; a missing or
unreadable start leaves nothing. -/
def extent? (o : Json.Object) : Option Extent := do
  let line ← coordinate? (firstPresent o ["start_line", "startLine"])
  let character ← coordinate? (firstPresent o ["start_col", "startCol"])
  let stopLine := coordinate? (firstPresent o ["end_line", "endLine"])
  let stopCharacter := coordinate? (firstPresent o ["end_col", "endCol"])
  return ⟨line, character, stopLine.getD line, stopCharacter.getD character⟩

/-- The last line of a text, the first one if the text claims to have none. -/
def LineView.lastLine (v : LineView) : Int :=
  max 0 (v.lineCount - 1)

/-- The end of a span on the line of its start: one character further if the span would hold
nothing and the line has one more. -/
def widen (startCharacter stopCharacter length : Nat) : Nat :=
  if stopCharacter ≤ startCharacter then
    if startCharacter < length then startCharacter + 1 else startCharacter
  else stopCharacter

/-- The span of an extent in a text. An unreadable end line stands for the start line. -/
def Extent.clamp? (e : Extent) (v : LineView) : Option Span :=
  let startLine : Int := min e.startLine v.lastLine
  match v.line? startLine with
  | none => none
  | some startText =>
    let wanted : Int := min e.stopLine v.lastLine
    let (stopLine, stopText) := match v.line? wanted with
      | some t => (wanted, t)
      | none => (startLine, startText)
    let startCharacter := min e.startCharacter startText.length
    let stopCharacter := min e.stopCharacter stopText.length
    let stopCharacter :=
      if startLine = stopLine then widen startCharacter stopCharacter startText.length
      else stopCharacter
    some ⟨⟨startLine, startCharacter⟩, ⟨stopLine, stopCharacter⟩⟩

def locate? (v : LineView) (location : Json.Object) : Option Span :=
  (extent? location).bind (·.clamp? v)

def file? (location : Json.Object) : Option String :=
  match location.field "file" with
  | .str s => if s.isEmpty then none else some s
  | _ => none

end DiagnosticFeed.Wire
