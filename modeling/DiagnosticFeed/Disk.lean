import DiagnosticFeed.FilePath
import DiagnosticFeed.Failure
import DiagnosticFeed.Keyed
import DiagnosticFeed.Text.Lines
import DiagnosticFeed.Text.Utf8

/-!
# Files

The part of a file system that the program touches: files and directories by resolved path, a
working directory, and a table of the operations that currently fail. A failing operation fails on
every path before anything else is looked at, and its error names the path as the caller gave it.
A write can also fail on the way, once its file is open and no longer what it was; the error then
names no path.

A file holds text, or bytes that need not be text; only files from outside hold the latter. Two
slashes at the front of a path are one.
-/

namespace DiagnosticFeed

/-- What a file holds. -/
inductive Content where
  | text (s : String)
  | raw (bytes : List UInt8)
  deriving DecidableEq

/-- The text of a file's content, as far as it is text. -/
def Content.decode? : Content → Option String
  | text s => some s
  | raw bytes => Text.decode? bytes

/-- The text of a file's content, repaired where it is none. -/
def Content.decodeRepaired : Content → String
  | text s => s
  | raw bytes => Text.decodeRepaired bytes

/-- The operations that can be made to fail. -/
inductive Access where
  | read
  | write
  | makeDirectory
  | unlink
  | openLog
  deriving DecidableEq

def Access.word : Access → String
  | read => "read"
  | write => "write"
  | makeDirectory => "mkdir"
  | unlink => "unlink"
  | openLog => "log_file"

/-- How an operation fails. -/
inductive Fault where
  | code (c : ErrorCode)
  /-- It breaks with an error that is not the operating system's. -/
  | breaks
  /-- It begins and is refused on the way, which leaves this in its file. Only writes fail so. -/
  | midway (c : ErrorCode) (left : Content)
  deriving DecidableEq

/-- A file system. Files and directories are kept under the text of their resolved path. -/
structure Disk where
  cwd : FilePath
  files : Keyed String Content
  dirs : List String
  faults : Keyed Access Fault

namespace Disk

/-- The text that a path is kept under. -/
def key (d : Disk) (p : FilePath) : String :=
  (FilePath.canonical d.cwd p).toText

/-- The files as a process finds them that starts in a directory, or where the program is. -/
def startingIn (d : Disk) (directory : Option String) : Disk :=
  { d with cwd := (directory.map fun text ↦ FilePath.resolve d.cwd (.ofString text)).getD d.cwd }

/-- The failure that an operation meets on every path, if there is one. -/
def check (d : Disk) (a : Access) (p : FilePath) : Except Failure Unit :=
  match d.faults.get? a with
  | none | some (.midway ..) => .ok ()
  | some (.code c) => .error (.system c (some p.toText))
  | some .breaks => .error (.broken (a.word ++ " broken"))

def content? (d : Disk) (p : FilePath) : Option Content :=
  d.files.get? (d.key p)

def isFile (d : Disk) (p : FilePath) : Bool :=
  (d.content? p).isSome

def isDir (d : Disk) (p : FilePath) : Bool :=
  d.dirs.contains (d.key p)

def exists? (d : Disk) (p : FilePath) : Bool :=
  d.isFile p || d.isDir p

/-- The content of a file, or why it cannot be had. -/
def read (d : Disk) (p : FilePath) : Except Failure Content := do
  d.check .read p
  match d.content? p with
  | some c => return c
  | none =>
    throw (.system (if d.isDir p then .isDirectory else .notFound) (some p.toText))

/-- The text of a file, with its line ends unified. -/
def readText (d : Disk) (p : FilePath) : Except Failure String := do
  match (← d.read p).decode? with
  | some s => return String.ofList (Text.unifyLineEnds s.toList)
  | none => throw .undecodable

/-- Puts a content into a file. -/
def put (d : Disk) (p : FilePath) (c : Content) : Disk :=
  { d with files := d.files.set (d.key p) c }

/-- Why writes are refused on the way, and what they leave in their file. -/
def remnant? (d : Disk) : Option (ErrorCode × Content) :=
  match d.faults.get? .write with
  | some (.midway c left) => some (c, left)
  | _ => none

/-- Writes a text to a file, as it is. A failure comes with the files as it leaves them. -/
def writeText (d : Disk) (p : FilePath) (s : String) : Except (Failure × Disk) Disk :=
  match d.check .write p with
  | .error e => .error (e, d)
  | .ok () =>
    if d.isDir p then .error (.system .isDirectory (some p.toText), d)
    else
      match d.remnant? with
      | some (c, left) => .error (.system c none, d.put p left)
      | none => .ok (d.put p (.text s))

def makeDirectory (d : Disk) (p : FilePath) : Except Failure Disk := do
  d.check .makeDirectory p
  if d.isFile p then throw (.system .exists (some p.toText))
  return if d.isDir p then d else { d with dirs := d.dirs ++ [d.key p] }

/-- Takes a file away, if there is one. -/
def remove (d : Disk) (p : FilePath) : Disk :=
  { d with files := d.files.erase (d.key p) }

def unlink (d : Disk) (p : FilePath) : Except Failure Disk := do
  d.check .unlink p
  if d.isFile p then return d.remove p
  else throw (.system (if d.isDir p then .isDirectory else .notFound) (some p.toText))

end Disk

end DiagnosticFeed
