import DiagnosticFeed.Config.Naming
import DiagnosticFeed.Config.Reference
import DiagnosticFeed.Disk
import DiagnosticFeed.Json.Reader

/-!
# Settings from the environment

What the installed library makes of the environment. Variables set sections and single fields: one
that names a section holds JSON, and variables for its fields go over it. What the environment gives
lies below what a file gives, and the file says how variables are named.
-/

namespace DiagnosticFeed.Config

/-- The environment under plain names. Of two names that become one the later value counts. -/
def Naming.environment (n : Naming) (env : Environment) : Environment :=
  let env := if n.skipEmpty then env.filter (!·.2.isEmpty) else env
  if n.exact then env else env.foldl (fun l e ↦ Keyed.set l (Text.lower e.1) e.2) []

/-- JSON in a variable. -/
def readVariable (s : String) : Except Failure Datum :=
  match Json.parse s with
  | .ok v => .ok (Datum.ofJson v)
  | .error _ => .error .invalidVariable

/-- Whether a path of names leads to a section inside a section. -/
def isInnerSection (n : Naming) (sectionName : String) (path : List String) : Bool :=
  sectionName == "logging" && (path == ["file"] || path == [n.variable_ "file"])

/-- Null in the place of what is there, which gives way only if it is an empty mapping. -/
def nullOver : Option Datum → Datum
  | none | some (.map []) => .null
  | some d => d

/-- Sets what a variable gives for the field of a path. -/
def setField (n : Naming) (sectionName : String) (path : List String) (s : String) (d : Datum) :
    Except Failure Datum := do
  if isInnerSection n sectionName path && !s.isEmpty then
    let v ← readVariable s
    return d.alterAt (fun _ ↦ v) path
  else if n.nullWord == some s then return d.alterAt nullOver path
  else return d.alterAt (fun _ ↦ .text s) path

/-- What the variables for fields of a section give. -/
def fieldsFrom (n : Naming) (env : Environment) (sectionName : String) : Except Failure Datum :=
  env.foldlM (fun d (name, s) ↦
    match n.fieldPath? sectionName name with
    | none => .ok d
    | some path => setField n sectionName path s d) (.map [])

def fieldNames : String → List String
  | "analyzer" =>
    ["executable_path", "debounce_ms", "max_diagnostics", "temp_dir", "language_id"]
  | "logging" => ["level", "format", "file"]
  | "file" => ["enabled", "path"]
  | _ => []

/-- The usual names of the variables for all sections and fields, in upper case. -/
def variableNames : List String :=
  (sectionNames.flatMap fun n ↦
    let start := ({} : Naming).start ++ n
    start :: ((fieldNames n).map (start ++ "__" ++ ·)
      ++ if n == "logging" then (fieldNames "file").map (start ++ "__file__" ++ ·) else [])).map
    Text.upper

/-- Entries under the exact names of fields, where they differ from them in letter case only. -/
def exactNames (names : List String) (o : Entries) : Entries :=
  o.foldl (fun found e ↦
    match e.1.text? with
    | none => found ++ [e]
    | some k =>
      match names.find? fun n ↦ n == Text.lower k with
      | some n => Datum.put n e.2 found
      | none => Datum.put k e.2 found) []

/-- A section with its fields under their exact names, those of the section inside it included. -/
def exactSection (sectionName : String) : Datum → Datum
  | .map o =>
    .map ((exactNames (fieldNames sectionName) o).map fun e ↦
      match e with
      | (.text "file", .map inner) =>
        if sectionName == "logging" then (.text "file", .map (exactNames (fieldNames "file") inner))
        else e
      | e => e)
  | d => d

/-- A section from variables, with fields under their exact names unless letter case counts. -/
def Naming.settle (n : Naming) (sectionName : String) (d : Datum) : Datum :=
  if n.exact then d else exactSection sectionName d

/-- What the variables for single fields give for a section, if anything. -/
def sectionFromFields (n : Naming) (env : Environment) (sectionName : String) :
    Except Failure (Option Datum) := do
  match ← fieldsFrom n env sectionName with
  | .map [] => return none
  | d => return some (n.settle sectionName d)

/-- What the environment gives for a section, if anything. -/
def sectionFrom (n : Naming) (env : Environment) (sectionName : String) :
    Except Failure (Option Datum) := do
  match env.get? (n.variable_ sectionName) with
  | none => sectionFromFields n env sectionName
  | some s =>
    if n.nullWord == some s then return some .null
    match ← readVariable s with
    | .map o =>
      let fields ← fieldsFrom n env sectionName
      return some (n.settle sectionName (fields.mergedOver (.map o)))
    | .null => return none
    | d => return some d

/-- What the environment gives for all sections. -/
def environmentLayer (n : Naming) (env : Environment) : Except Failure Entries := do
  let env := n.environment env
  let found ← sectionNames.mapM fun name ↦ do
    return (← sectionFrom n env name).map fun d ↦ (Datum.text name, d)
  return found.filterMap id

/-- Settings from entries over those of the environment. -/
def layered (disk : Disk) (env : Environment) (o : Entries) :
    Except Failure (Verdict Settings) := do
  let below ← environmentLayer (← namingOf o) env
  if (← placesAt o directoriesParameter).any disk.isFile then throw .invalidVariable
  return settingsOf (Datum.overEntries (sectionsOf o) below)

end DiagnosticFeed.Config
