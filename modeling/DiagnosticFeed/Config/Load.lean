import DiagnosticFeed.Config.Library

/-!
# Loading settings

Settings from a YAML file, or without one. References to environment variables are replaced in the
text of the file before it is read as YAML, so they count even in comments. An empty file is one
without settings.

What is wrong with a value is told of the file if there is one, wherever the value comes from.
-/

namespace DiagnosticFeed.Config

/-- The data of a file's text. -/
def dataOf (lib : Library) (p : FilePath) (s : String) : Except Failure Datum :=
  match lib.read s with
  | .ok d => .ok d
  | .error .markup => .error (.invalidMarkup p.toText)
  | .error (.other e) => .error e

/-- The entries that a file gives. -/
def entriesOf (p : FilePath) : Datum → Except Failure Entries
  | .null => .ok []
  | .map entries =>
    if entries.all fun e ↦ e.1.text?.isSome then .ok entries else .error .keyNotText
  | _ => .error (.rootNotMapping p.toText)

def loadFile (lib : Library) (disk : Disk) (env : Environment) (p : FilePath) :
    Except Failure Settings := do
  if !disk.exists? p then throw (.configurationMissing p.toText)
  let text ← expand env (← disk.readText p)
  let entries ← entriesOf p (← dataOf lib p text)
  (← lib.build disk env entries).mapError (.invalidConfiguration p.toText)

/-- The settings of a file, if one is given, or those without one. -/
def load (lib : Library) (disk : Disk) (env : Environment) :
    Option FilePath → Except Failure Settings
  | some p => loadFile lib disk env p
  | none => do (← lib.build disk env []).mapError .invalidFields

end DiagnosticFeed.Config
