import DiagnosticFeed.Disk

/-!
# Documents

A text buffer with a version that every change of its text raises. A document with a backing file
has a path; one that was never saved has none, and its resource identifier has the scheme
`untitled`.

The lines are found once and kept beside the text, so whatever changes the text has to find them
anew; a document with the lines of another text cannot be built.
-/

namespace DiagnosticFeed

/-- The language of a document when none is given. -/
def defaultLanguage : String := "surge"

def linesOf (text : String) : List String :=
  (Text.lines text.toList).map String.ofList

/-- What a document that is given by its text alone is built with. -/
theorem linesOf_self (text : String) : linesOf text = linesOf text :=
  rfl

/-- An open text buffer. -/
structure Document where
  uri : String
  text : String := ""
  path : Option FilePath := none
  language : String := defaultLanguage
  version : Int := 1
  dirty : Bool := false
  closed : Bool := false
  /-- The lines of the text. -/
  lines : List String := linesOf text
  lines_eq : lines = linesOf text := by exact linesOf_self _
  deriving DecidableEq

namespace Document

/-- A buffer that was never saved; it is dirty if it holds text. -/
def untitled (name text language : String) : Document where
  uri := "untitled:" ++ name
  text := text
  language := language
  dirty := !text.isEmpty

/-- The document of a file. -/
def ofFile (d : Disk) (p : FilePath) (language : String) : Except Failure Document := do
  let p := FilePath.canonical d.cwd p
  let text ← d.readText p
  return { uri := p.uri, text := text, path := some p, language := language }

/-- The part of the resource identifier before its first colon. -/
def scheme (d : Document) : String :=
  String.ofList (d.uri.toList.takeWhile (· ≠ ':'))

/-- Whether the buffer was never saved. -/
def isUntitled (d : Document) : Bool :=
  d.scheme == "untitled"

def lineCount (d : Document) : Nat :=
  d.lines.length

/-- The line of a number, if there is one of this number among some lines. -/
def lineOf? (lines : List String) (i : Int) : Option String :=
  if i < 0 then none else lines[i.toNat]?

/-- A line of the text, if there is one of this number. -/
def line? (d : Document) (i : Int) : Option String :=
  lineOf? d.lines i

def lineAt (d : Document) (i : Int) : Except Failure String :=
  match d.line? i with
  | some s => .ok s
  | none => .error (.lineOutOfRange i (d.lineCount - 1))

def setText (d : Document) (text : String) : Document :=
  { d with
    text := text
    lines := linesOf text
    lines_eq := linesOf_self text
    version := d.version + 1
    dirty := true }

/-- Writes the text to the backing file. A failure comes with the files as it leaves them. -/
def save (d : Document) (disk : Disk) : Except (Failure × Disk) (Document × Disk) :=
  match d.path with
  | none => .error (.noBackingFile d.uri, disk)
  | some p => do
    let disk ← disk.writeText p d.text
    return ({ d with dirty := false }, disk)

/-- Marks the document as closed, for good. -/
def close (d : Document) : Document :=
  { d with closed := true }

end Document

/-- The state of a document that an analysis started from. -/
structure Ticket where
  uri : String
  version : Int
  deriving DecidableEq

namespace Ticket

def capture (d : Document) : Ticket :=
  ⟨d.uri, d.version⟩

/-- Whether the document is open and still in the state of the ticket. -/
def isCurrent (t : Ticket) (d : Document) : Bool :=
  !d.closed && d.uri == t.uri && d.version == t.version

end Ticket

end DiagnosticFeed
