/-!
# A place in a YAML text

The rest of a text with the number of its line and column. Past the end of the text the null
character is read, which no YAML text contains.

Lines end with a line feed, a carriage return, both, or one of three further characters. The first
four read as a line feed.
-/

namespace DiagnosticFeed.Yaml

/-- What is read past the end. -/
def nul : Char := Char.ofNat 0

/-- The characters that end a line. -/
def isBreak (c : Char) : Bool :=
  c == '\n' || c == '\r' || c.toNat == 0x85 || c.toNat == 0x2028 || c.toNat == 0x2029

/-- The ends of a line, and of the text. -/
def isEnd (c : Char) : Bool :=
  c == nul || isBreak c

/-- The characters that end a word. -/
def isGap (c : Char) : Bool :=
  c == ' ' || c == '\t' || isEnd c

/-- Blank characters on a line. -/
def isWhite (c : Char) : Bool :=
  c == ' ' || c == '\t'

/-- The mark of byte order. It takes up no column. -/
def byteOrderMark : Char := Char.ofNat 0xFEFF

/-- A place in a text. -/
structure Cursor where
  rest : List Char
  index : Nat := 0
  line : Nat := 0
  column : Nat := 0

namespace Cursor

/-- The character at the place. -/
def peek (c : Cursor) : Char :=
  c.rest.headD nul

def peekAt (c : Cursor) (n : Nat) : Char :=
  (c.rest.drop n).headD nul

def next (c : Cursor) : Cursor :=
  match c.rest with
  | [] => c
  | x :: xs =>
    if isBreak x && !(x == '\r' && xs.head? == some '\n') then ⟨xs, c.index + 1, c.line + 1, 0⟩
    else ⟨xs, c.index + 1, c.line, if x == byteOrderMark then c.column else c.column + 1⟩

/-- The place some characters further on. -/
def skip (c : Cursor) : Nat → Cursor
  | 0 => c
  | n + 1 => c.next.skip n

/-- The characters of a class from here on, and the place behind them. -/
def takeWhile (c : Cursor) (p : Char → Bool) : List Char × Cursor :=
  let xs := c.rest.takeWhile p
  (xs, c.skip xs.length)

/-- The place behind the characters of a class. -/
def skipWhile (c : Cursor) (p : Char → Bool) : Cursor :=
  (c.takeWhile p).2

/-- The line end at the place as it reads, and the place behind it. -/
def lineBreak? (c : Cursor) : Option (Char × Cursor) :=
  let x := c.peek
  if x == '\r' && c.peekAt 1 == '\n' then some ('\n', c.skip 2)
  else if x == '\r' || x == '\n' || x.toNat == 0x85 then some ('\n', c.next)
  else if x.toNat == 0x2028 || x.toNat == 0x2029 then some (x, c.next)
  else none

/-- The place behind a comment, if one starts here. -/
def skipComment (c : Cursor) : Cursor :=
  if c.peek == '#' then c.skipWhile (!isEnd ·) else c

/-- Whether three equal characters stand here as a word of their own. -/
def isMarker (c : Cursor) (x : Char) : Bool :=
  c.peek == x && c.peekAt 1 == x && c.peekAt 2 == x && isGap (c.peekAt 3)

/-- Whether a document ends or starts here. -/
def isDocumentMarker (c : Cursor) : Bool :=
  c.isMarker '-' || c.isMarker '.'

end Cursor

end DiagnosticFeed.Yaml
