import DiagnosticFeed.CommandLine.Program

/-!
# The command

The outer layer: it gathers what the program is given, and prints what can be seen of it. Only the
files that are named on the command line are looked at. No other program is started from here, so a
check goes as it does where no analyzer is installed, and this is told.
-/

namespace DiagnosticFeed.Main

open CommandLine

/-- What stands at a path, if it can be read. -/
def contentAt (p : FilePath) : IO (Option Content) := do
  try
    let bytes ← IO.FS.readBinFile p.toText
    return some (.raw bytes.toList)
  catch _ => return none

/-- Whether a directory stands at a path. -/
def isDirectory (p : FilePath) : IO Bool := do
  try
    (← IO.FS.realPath p.toText).isDir
  catch _ => return false

/-- The files and directories at some paths. -/
def gatherDisk (paths : List FilePath) : IO Disk := do
  let mut disk : Disk :=
    { cwd := FilePath.ofString (← IO.currentDir).toString, files := [], dirs := [], faults := [] }
  for p in paths do
    if ← isDirectory p then
      disk := { disk with dirs := disk.dirs ++ [disk.key p] }
    else
      match ← contentAt p with
      | some c => disk := { disk with files := disk.files.set (disk.key p) c }
      | none => pure ()
  return disk

/-- The environment variables that can matter: those for settings, and those that the configuration
refers to. -/
def gatherEnvironment (disk : Disk) (config : Option FilePath) : IO Config.Environment := do
  let text := (config.bind fun p ↦ (disk.readText p).toOption).getD ""
  let mut env : Config.Environment := []
  for name in Config.variableNames ++ Config.referredNames text do
    match ← IO.getEnv name with
    | some v => env := env.set name v
    | none => pure ()
  return env

/-- A run of an analyzer that is not installed. -/
def missingRun : Run :=
  { startFault := some .executableMissing }

/-- The line for an event; only log records have one. -/
def eventLine? : Event → Option String
  | .logged bound n =>
    let r := n.record.stamped (boundFields bound)
    some (Json.Value.compact (.obj
      (("event", .str r.event) :: ("level", .str r.level.word) :: r.fields)))
  | _ => none

/-- Runs the program where no analyzer is installed and prints what is to be seen. -/
def perform (a : Arguments) : IO UInt32 := do
  let disk ← gatherDisk a.paths
  let env ← gatherEnvironment disk (a.config.bind id)
  let runs := a.paths.map fun _ ↦ missingRun
  let outcome := run { disk := disk, environment := env, runs := runs } a
  match a.dryRun, a.command with
  | false, some (.check _) =>
    IO.eprintln "No analyzer is started from here; files are checked as if there were none."
  | _, _ => pure ()
  for l in outcome.seen.filterMap eventLine? do
    IO.eprintln l
  IO.print outcome.printed.stdout
  IO.eprint outcome.printed.stderr
  match outcome.exit with
  | .ok c => return c.number.toUInt32
  | .error e => do
    IO.eprintln (e.kind ++ ": " ++ e.message)
    return 1

end DiagnosticFeed.Main

def main (args : List String) : IO UInt32 := do
  match DiagnosticFeed.CommandLine.Arguments.read args with
  | .ok a => DiagnosticFeed.Main.perform a
  | .error stop => do
    IO.print stop.stdout
    return stop.exitCode.toUInt32
