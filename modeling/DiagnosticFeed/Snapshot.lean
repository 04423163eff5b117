import DiagnosticFeed.Document
import DiagnosticFeed.Log.Notice
import DiagnosticFeed.Target

/-!
# Snapshots

A document that is on disk as it stands is analyzed in place. Any other is first written to a file
of its own in a scratch directory, which is removed afterwards. Its name carries a time and a token
and keeps the suffix of the document.

Names are idealised in two ways. A token is drawn at random and could be drawn twice, and here it
counts the names that were given out, so two snapshots never share a file; and the time of day is
one time here, so names differ by their tokens only.

Writing a snapshot takes two steps, the directory and the file, since other things can happen
in between; `prepare` takes both at once.
-/

namespace DiagnosticFeed

/-- A scratch directory, and the supply of names for files in it. -/
structure Scratch where
  directory : FilePath
  /-- The time that names carry, in milliseconds; it stands still. -/
  clock : Int := 1000000
  /-- How many names were given out. -/
  issued : Nat := 0

namespace Snapshot

def defaultStem : String := "untitled"

def defaultSuffix : String := ".sg"

/-- A text, or another one in place of an empty one. -/
def orElse (s default : String) : String :=
  if s.isEmpty then default else s

/-- The file name of a snapshot: stem, time, token, suffix. -/
def fileName (path : Option FilePath) (clock : Int) (token : Nat) : String :=
  let stem := orElse ((path.map FilePath.stem).getD "") defaultStem
  let suffix := orElse ((path.map FilePath.suffix).getD "") defaultSuffix
  stem ++ "-" ++ toString clock ++ "-" ++ String.ofList (Text.hexDigits 8 token) ++ suffix

/-- The path of the next snapshot of a document. Its token is the number of the name, in place of a
random one. -/
def nextPath (s : Scratch) (path : Option FilePath) : FilePath :=
  s.directory.child (fileName path s.clock (s.issued + 1))

/-- The supply after a name was given out. -/
def take (s : Scratch) : Scratch :=
  { s with issued := s.issued + 1 }

def isInPlace (d : Document) : Bool :=
  d.path.isSome && !d.isUntitled && !d.dirty

def documentPath? (cwd : FilePath) (d : Document) : Option String :=
  d.path.bind fun p ↦ FilePath.normalText? cwd p.toText

/-- The target of a document that is analyzed in place. -/
def inPlace (cwd : FilePath) (d : Document) : Target where
  path := (d.path.map FilePath.toText).getD ""
  analysis := documentPath? cwd d
  document := documentPath? cwd d

/-- The target of a document whose snapshot is at `p`. -/
def copyAt (cwd : FilePath) (d : Document) (p : FilePath) : Target where
  path := p.toText
  analysis := FilePath.normalText? cwd p.toText
  document := documentPath? cwd d
  temporary := true

/-- The failure of a snapshot: what the operating system refused is told with the snapshot's path,
anything else as it is. -/
def failure (p : FilePath) (e : Failure) : Failure :=
  if e.isSystem then .snapshotUnwritable p.toText e.message else e

def makeRoom (disk : Disk) (s : Scratch) (p : FilePath) : Except Failure Disk :=
  (disk.makeDirectory s.directory).mapError (failure p)

/-- Writes the snapshot at `p`. What a failure leaves there stays. -/
def write (disk : Disk) (p : FilePath) (text : String) : Except (Failure × Disk) Disk :=
  (disk.writeText p text).mapError fun (e, disk) ↦ (failure p e, disk)

def writtenNotice (p : FilePath) (text : String) : Log.Notice :=
  .snapshotWritten p.toText text.length

/-- Removes a snapshot. One that is gone already is fine, and one that the operating system will
not remove is left with a notice. -/
def delete (disk : Disk) (p : FilePath) : Except Failure (Disk × List Log.Notice) :=
  match disk.unlink p with
  | .ok disk => .ok (disk, [])
  | .error e =>
    if e.isMissing then .ok (disk, [])
    else if e.isSystem then .ok (disk, [.snapshotKept p.toText e.message])
    else .error e

/-- What preparing a document comes to. -/
structure Prepared where
  target : Except Failure Target
  /-- The snapshot to remove afterwards. -/
  snapshot : Option FilePath := none
  disk : Disk
  scratch : Scratch
  notices : List Log.Notice := []

/-- Prepares a document for analysis, in one go. -/
def prepare (disk : Disk) (s : Scratch) (d : Document) : Prepared :=
  if isInPlace d then { target := .ok (inPlace disk.cwd d), disk := disk, scratch := s }
  else
    let p := nextPath s d.path
    match makeRoom disk s p with
    | .error e => { target := .error e, disk := disk, scratch := take s }
    | .ok disk =>
      match write disk p d.text with
      | .error (e, disk) => { target := .error e, disk := disk, scratch := take s }
      | .ok disk =>
        { target := .ok (copyAt disk.cwd d p), snapshot := some p, disk := disk,
          scratch := take s, notices := [writtenNotice p d.text] }

end Snapshot

end DiagnosticFeed
