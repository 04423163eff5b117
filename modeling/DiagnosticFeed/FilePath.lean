import DiagnosticFeed.Text.Split
import DiagnosticFeed.Text.LetterCase

/-!
# File paths

A path is an anchor and a list of components. Reading a path drops empty and `.` components, so
`a//b/./c/` is `a/b/c`; a component `..` stays until the path is resolved. Exactly two slashes at
the front are an anchor of their own, and any other number stands for one.

Resolving is lexical: a path is put behind a working directory unless it is absolute, and each `..`
takes away the component before it. Two spellings of one file resolve to the same path, which
is how files are compared.
-/

namespace DiagnosticFeed

/-- Where a path starts from. -/
inductive Anchor where
  | relative
  | root
  | doubleRoot
  deriving DecidableEq, Repr, Inhabited

/-- A path with no empty and no `.` component. -/
structure FilePath where
  anchor : Anchor
  parts : List String
  deriving DecidableEq, Inhabited

namespace FilePath

open Text

/-- The anchor that a text starts with. -/
def anchorOf : List Char → Anchor
  | '/' :: '/' :: '/' :: _ => .root
  | '/' :: '/' :: _ => .doubleRoot
  | '/' :: _ => .root
  | _ => .relative

/-- The components of a text, without the empty ones and the dots. -/
def partsOf (cs : List Char) : List String :=
  ((splitOn '/' cs).filter fun p ↦ p ≠ [] && p ≠ ['.']).map String.ofList

/-- The path that a text spells. -/
def ofString (s : String) : FilePath :=
  ⟨anchorOf s.toList, partsOf s.toList⟩

def anchorText : Anchor → String
  | .relative => ""
  | .root => "/"
  | .doubleRoot => "//"

/-- A path as text; the path of no components is a dot. -/
def toText (p : FilePath) : String :=
  if p.anchor = .relative && p.parts.isEmpty then "."
  else anchorText p.anchor ++ "/".intercalate p.parts

instance : ToString FilePath := ⟨toText⟩

def parent (p : FilePath) : FilePath :=
  ⟨p.anchor, p.parts.dropLast⟩

/-- The last component, empty if there is none. -/
def name (p : FilePath) : String :=
  p.parts.getLast?.getD ""

/-- A file name cut before its last dot. A dot at either end of the name cuts nothing. -/
def cutName (name : List Char) : List Char × List Char :=
  let tail := (name.reverse.takeWhile (· ≠ '.')).reverse
  let head := name.take (name.length - tail.length - 1)
  if tail.length = name.length || tail.isEmpty || head.isEmpty then (name, [])
  else (head, '.' :: tail)

/-- The file name without its suffix. -/
def stem (p : FilePath) : String :=
  String.ofList (cutName p.name.toList).1

/-- The suffix of the file name with its dot, or nothing. -/
def suffix (p : FilePath) : String :=
  String.ofList (cutName p.name.toList).2

/-- The path of a file in a directory. -/
def child (dir : FilePath) (name : String) : FilePath :=
  ⟨dir.anchor, dir.parts ++ [name]⟩

/-! ## Resolving -/

/-- The components with every `..` resolved, given those before it, last first. At the front there
is nothing to take away. -/
def climb : List String → List String → List String
  | before, [] => before.reverse
  | before, p :: ps => if p = ".." then climb before.tail ps else climb (p :: before) ps

/-- The absolute path that `p` stands for in the working directory `cwd`. -/
def resolve (cwd p : FilePath) : FilePath :=
  if p.anchor = .relative then ⟨cwd.anchor, climb [] (cwd.parts ++ p.parts)⟩
  else ⟨p.anchor, climb [] p.parts⟩

/-- `resolve` with one slash in front, the form that files are opened under. -/
def canonical (cwd p : FilePath) : FilePath :=
  ⟨.root, (resolve cwd p).parts⟩

/-- The normal form of a path's text. Empty text names no file. -/
def normalText? (cwd : FilePath) (s : String) : Option String :=
  if s.isEmpty then none else some (resolve cwd (ofString s)).toText

/-- The normal form where the file system ignores letter case. -/
def foldedText? (cwd : FilePath) (s : String) : Option String :=
  (normalText? cwd s).map lower

/-- Whether two texts name one file. -/
def sameText (cwd : FilePath) (a b : Option String) : Bool :=
  match a.bind (normalText? cwd), b.bind (normalText? cwd) with
  | some x, some y => x == y
  | _, _ => false

/-- Platforms whose file systems ignore letter case. -/
def ignoresCase (platform : String) : Bool :=
  platform == "win32" || platform == "cygwin"

/-! ## Resource identifiers -/

/-- Bytes that a resource identifier holds as they are. -/
def isPlainByte (b : UInt8) : Bool :=
  let c := Char.ofNat b.toNat
  b.toNat < 128 && (c.isAlphanum || c == '_' || c == '.' || c == '-' || c == '~' || c == '/')

/-- A byte as a percent sign and two capital hexadecimal digits, unless it is plain. -/
def escapeByte (b : UInt8) : List Char :=
  if isPlainByte b then [Char.ofNat b.toNat]
  else
    let digit (n : Nat) : Char := if n < 10 then Char.ofNat (48 + n) else Char.ofNat (55 + n)
    ['%', digit (b.toNat / 16), digit (b.toNat % 16)]

/-- The resource identifier of an absolute path. -/
def uri (p : FilePath) : String :=
  "file://" ++ String.ofList (p.toText.toUTF8.toList.flatMap escapeByte)

end FilePath

end DiagnosticFeed
