import DiagnosticFeed.Disk
import DiagnosticFeed.Toml.Document

/-!
# The version

The version is that of the installed package, even if it is empty, or else the one in the project
file. There it is the `version` of the `project` table, shown as text whatever it is; a version that
says nothing is none.
-/

namespace DiagnosticFeed.Version

def ofValue (v : Toml.Value) : Except Failure (Option String) :=
  if !v.isTelling then .ok none
  else if v.hasLongNumber then .error (.longNumber none)
  else if Toml.Value.maxDepth < v.depth then .error .tooDeep
  else .ok (some v.display)

def ofTable (t : Toml.Table) : Except Failure (Option String) :=
  match t.get? "project" with
  | none => .ok none
  | some (.table project) =>
    match Keyed.get? project "version" with
    | some v => ofValue v
    | none => .ok none
  | some _ => .error .projectNotTable

/-- The version in a project file; there is none if there is no file. -/
def ofProject (disk : Disk) (p : FilePath) : Except Failure (Option String) := do
  if !disk.isFile p then return none
  match (← disk.read p).decode? with
  | none => throw .undecodable
  | some s =>
    match Toml.read s with
    | .ok t => ofTable t
    | .error .malformed => throw .invalidProject
    | .error (.longNumber digits) => throw (.longNumber (some digits))
    | .error .tooDeep => throw .tooDeep

/-- The version, if there is one to be found. -/
def resolve (installed : Option String) (disk : Disk) (p : FilePath) : Except Failure String :=
  match installed with
  | some v => .ok v
  | none => do
    match ← ofProject disk p with
    | some v => return v
    | none => throw .versionUnknown

end DiagnosticFeed.Version
