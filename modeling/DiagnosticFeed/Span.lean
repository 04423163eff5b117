import DiagnosticFeed.Json.Value

/-!
# Positions and spans

A position is a line and a character on it, both counted from zero; positions are ordered by line
and then by character. A span starts at one position and ends before another.
-/

namespace DiagnosticFeed

/-- A place in a text. -/
structure Position where
  line : Int
  character : Int
  deriving DecidableEq, Inhabited

namespace Position

/-- By line, then by character. -/
def lt (a b : Position) : Bool :=
  a.line < b.line || (a.line == b.line && a.character < b.character)

/-- Before or at. -/
def le (a b : Position) : Bool :=
  a.lt b || a == b

def toJson (p : Position) : Json.Value :=
  .obj [("line", .int p.line), ("character", .int p.character)]

end Position

/-- The text from `start` to the position before `stop`. -/
structure Span where
  start : Position
  stop : Position
  deriving DecidableEq, Inhabited

namespace Span

/-- Whether a span holds no text. -/
def isEmpty (s : Span) : Bool :=
  s.start == s.stop

def toJson (s : Span) : Json.Value :=
  .obj [("start", s.start.toJson), ("end", s.stop.toJson)]

end Span

end DiagnosticFeed
