import DiagnosticFeed.Config.Check
import DiagnosticFeed.Text.LetterCase
import DiagnosticFeed.Text.Split

/-!
# How variables are named

In the installed library, variables for settings are named by a common start and the names of
section and field, with a separator between them, usually in any letter case. Entries of the
outermost level whose keys start with an underscore can change this and how values are read; those
that a program of this kind has no use for are taken and do nothing.

All other entries are sections. Their names count in any letter case, and of several entries for one
section the first one counts.
-/

namespace DiagnosticFeed.Config

/-- How variables for settings are named and read. -/
structure Naming where
  /-- What the names of all variables start with. -/
  start : String := "SURGE_"
  /-- What stands between names; if it is empty, single fields have no variables. -/
  separator : String := "__"
  /-- How many names can follow that of the section, if there is a limit. -/
  most : Option Nat := none
  /-- Whether letter case counts. -/
  exact : Bool := false
  /-- Whether variables with an empty value are passed over. -/
  skipEmpty : Bool := false
  /-- The value that stands for null. -/
  nullWord : Option String := none

/-! ## Names -/

namespace Naming

def plain (n : Naming) (name : String) : String :=
  if n.exact then name else Text.lower name

/-- The name of the variable for a whole section, or what the name of a section may also be where a
variable for a field leads to it. -/
def variable_ (n : Naming) (sectionName : String) : String :=
  n.plain (n.start ++ sectionName)

/-- A text in front of the first separator and behind it. -/
def break? (separator : List Char) : List Char → Option (List Char × List Char)
  | [] => none
  | c :: cs =>
    match Text.stripStart? separator (c :: cs) with
    | some rest => some ([], rest)
    | none => (break? separator cs).map fun (part, rest) ↦ (c :: part, rest)

/-- A text split at its separators, so many of them at most. -/
def split (separator : List Char) : Nat → List Char → List (List Char)
  | 0, cs => [cs]
  | n + 1, cs =>
    match break? separator cs with
    | some (part, rest) => part :: split separator n rest
    | none => [cs]

/-- The path of names that a variable's name spells behind the name of a section. -/
def fieldPath? (n : Naming) (sectionName name : String) : Option (List String) :=
  if n.separator.isEmpty then none
  else
    let start := (n.variable_ sectionName).toList ++ n.separator.toList
    (Text.stripStart? start name.toList).map fun cs ↦
      let splits := (n.most.map (· - 1)).getD cs.length
      (split n.separator.toList splits cs).map String.ofList

end Naming

/-! ## Parameters -/

/-- Keys that are taken and do nothing. -/
def idleParameters : List String :=
  ["_nested_model_default_partial_update", "_env_prefix_target", "_env_file_encoding",
    "_env_parse_enums", "_cli_prog_name", "_cli_settings_source",
    "_cli_parse_none_str", "_cli_hide_none_type", "_cli_avoid_json", "_cli_enforce_required",
    "_cli_use_class_docs_for_groups", "_cli_exit_on_error", "_cli_prefix",
    "_cli_flag_prefix_char", "_cli_implicit_flags", "_cli_ignore_unknown_args",
    "_cli_kebab_case", "_cli_shortcuts", "_build_sources"]

/-- The key for files with further variables. No file has any, but files must be named. -/
def filesParameter : String := "_env_file"

/-- The key for directories with further variables. No directory has any, but no file can be
named. -/
def directoriesParameter : String := "_secrets_dir"

/-- The key for arguments that stand for further variables. They do nothing, but only a list or a
truth value is taken. -/
def argumentsParameter : String := "_cli_parse_args"

/-- Keys that change how variables are named and read. -/
def namingParameters : List String :=
  ["_env_prefix", "_case_sensitive", "_env_ignore_empty", "_env_parse_none_str",
    "_env_nested_delimiter", "_env_nested_max_split"]

/-- The key that stands for the settings themselves, which is never taken. -/
def ownName : String := "__pydantic_self__"

def isParameter (key : String) : Bool :=
  idleParameters.contains key || namingParameters.contains key
    || [filesParameter, directoriesParameter, argumentsParameter].contains key

/-- The value of a parameter, if it is given and not null. -/
def parameter? (o : Entries) (key : String) : Option Datum :=
  (Datum.lookup key o).filter (!·.isNull)

/-- Whether a parameter is given as something that counts as true. -/
def isSet (o : Entries) (key : String) : Bool :=
  ((parameter? o key).map Datum.isTrue).getD false

/-- Whether data has parts, which the start of names must have at least. -/
def hasParts : Datum → Bool
  | .text _ | .bytes _ | .seq _ | .map _ => true
  | _ => false

/-- What the names of variables start with. It must be text; with other data that has parts there is
no name for a variable. -/
def startOf (o : Entries) : Except Failure (Option String) :=
  match parameter? o "_env_prefix" with
  | none => .ok ({} : Naming).start
  | some (.text s) => .ok s
  | some d => if hasParts d then .ok none else .error .wrongKind

/-- Whether a path starts in the home of a user who has to be looked up. -/
def startsInHome (p : FilePath) : Bool :=
  p.anchor = .relative && match p.parts.head?.map String.toList with
    | some ('~' :: _ :: _) => true
    | _ => false

/-- A place by its path. There are no users whose homes could be told. -/
def placeOf : Datum → Except Failure FilePath
  | .text s =>
    let p := FilePath.ofString s
    if startsInHome p then .error (.broken "Could not determine home directory.") else .ok p
  | _ => .error .wrongKind

/-- The places that data names: a text is one, and anything with parts names several. -/
def placesOf : Datum → Except Failure (List FilePath)
  | .text s => (placeOf (.text s)).map ([·])
  | .seq items => items.mapM placeOf
  | .map entries => entries.mapM fun e ↦ placeOf e.1
  | .bytes [] => .ok []
  | _ => .error .wrongKind

/-- The places that a parameter names. -/
def placesAt (o : Entries) (key : String) : Except Failure (List FilePath) :=
  ((parameter? o key).map placesOf).getD (.ok [])

/-- Whether what is given as arguments is taken; zero is taken for false. -/
def takesArguments : Datum → Bool
  | .seq _ | .bool _ => true
  | .int n => n = 0
  | .float x => x == 0
  | _ => false

/-- What stands between names. -/
def separatorOf (o : Entries) : String :=
  match parameter? o "_env_nested_delimiter" with
  | none => ({} : Naming).separator
  | some (.text s) => s
  | some _ => ""

/-- How many names can follow that of the section. Numbers below one set no limit. -/
def mostOf (o : Entries) : Except Failure (Option Nat) :=
  match parameter? o "_env_nested_max_split" with
  | none => .ok none
  | some (.int n) => .ok (if 0 < n then some n.toNat else none)
  | some (.bool b) => .ok (if b then some 1 else none)
  | some d => if d.isTrue then .error .wrongKind else .ok none

/-- How variables are named and read according to the outermost entries. -/
def namingOf (o : Entries) : Except Failure Naming := do
  if o.any (·.1.isText ownName) then throw .wrongKind
  let most ← mostOf o
  let start? ← startOf o
  let _ ← placesAt o filesParameter
  if !((parameter? o argumentsParameter).map takesArguments).getD true then throw .invalidVariable
  let some start := start? | throw .invalidVariable
  return {
    start := start
    separator := separatorOf o
    most := most
    exact := isSet o "_case_sensitive"
    skipEmpty := isSet o "_env_ignore_empty"
    nullWord := (parameter? o "_env_parse_none_str").bind Datum.text? }

/-! ## Sections -/

/-- The name of the section that a key stands for. -/
def sectionNamed? (key : String) : Option String :=
  sectionNames.find? fun n ↦ n == Text.lower key

/-- The outermost entries with sections under their exact names and without parameters. -/
def sectionsOf (o : Entries) : Entries :=
  o.foldl (fun found e ↦
    match e.1.text? with
    | none => found
    | some key =>
      if isParameter key then found
      else
        match sectionNamed? key with
        | none => found ++ [e]
        | some n =>
          if (Datum.lookup n found).isSome then found else found ++ [(.text n, e.2)]) []

end DiagnosticFeed.Config
