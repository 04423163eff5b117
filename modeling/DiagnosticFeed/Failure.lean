import DiagnosticFeed.Log.Template
import DiagnosticFeed.Yaml.Fault

/-!
# Failures

Everything that can go wrong, as causes. Operating system errors carry their code and the path as
the caller gave it; the others carry what their message needs. `Failure.message` is the only place
where a failure is put into words.
-/

namespace DiagnosticFeed

/-- Operating system error codes. -/
inductive ErrorCode where
  | notPermitted
  | notFound
  | inputOutput
  | badFormat
  | accessDenied
  | exists
  | isDirectory
  | noSpace
  | readOnly
  deriving DecidableEq, Repr

namespace ErrorCode

def number : ErrorCode → Nat
  | notPermitted => 1
  | notFound => 2
  | inputOutput => 5
  | badFormat => 8
  | accessDenied => 13
  | «exists» => 17
  | isDirectory => 21
  | noSpace => 28
  | readOnly => 30

def symbol : ErrorCode → String
  | notPermitted => "EPERM"
  | notFound => "ENOENT"
  | inputOutput => "EIO"
  | badFormat => "ENOEXEC"
  | accessDenied => "EACCES"
  | «exists» => "EEXIST"
  | isDirectory => "EISDIR"
  | noSpace => "ENOSPC"
  | readOnly => "EROFS"

def ofSymbol? (s : String) : Option ErrorCode :=
  [notPermitted, notFound, inputOutput, badFormat, accessDenied, «exists», isDirectory, noSpace,
    readOnly].find? fun c ↦ c.symbol == s

def words : ErrorCode → String
  | notPermitted => "Operation not permitted"
  | notFound => "No such file or directory"
  | inputOutput => "Input/output error"
  | badFormat => "Exec format error"
  | accessDenied => "Permission denied"
  | «exists» => "File exists"
  | isDirectory => "Is a directory"
  | noSpace => "No space left on device"
  | readOnly => "Read-only file system"

end ErrorCode

/-- The ways a configuration value can be wrong. -/
inductive FieldError where
  | notAnInteger
  | fractionalNumber
  | unparsableInteger
  | oversizedInteger
  | infiniteNumber
  | tooSmall
  | tooLarge
  | notText
  /-- Bytes that are no text, where there should be text. -/
  | undecodableText
  | notAPath
  | notABoolean
  | unparsableBoolean
  | notAmongChoices
  | notASection
  | unknownField
  deriving DecidableEq, Repr

def FieldError.kind : FieldError → String
  | notAnInteger => "int_type"
  | fractionalNumber => "int_from_float"
  | unparsableInteger => "int_parsing"
  | oversizedInteger => "int_parsing_size"
  | infiniteNumber => "finite_number"
  | tooSmall => "greater_than_equal"
  | tooLarge => "less_than_equal"
  | notText => "string_type"
  | undecodableText => "string_unicode"
  | notAPath => "path_type"
  | notABoolean => "bool_type"
  | unparsableBoolean => "bool_parsing"
  | notAmongChoices => "literal_error"
  | notASection => "model_type"
  | unknownField => "extra_forbidden"

/-- A wrong field: its location, outermost name first, and what is wrong with it. -/
structure FieldIssue where
  location : List String
  error : FieldError
  deriving DecidableEq

/-- What can go wrong. -/
inductive Failure where
  /-- The operating system refused; the path is the one it was asked about. -/
  | system (code : ErrorCode) (path : Option String)
  /-- A component broke with a message of its own. -/
  | broken (message : String)
  /-- Bytes that are not text. -/
  | undecodable
  | noBackingFile (uri : String)
  | lineOutOfRange (line : Int) (last : Int)
  | negativeIncrement
  /-- A whole number that is too large for what is done with it. -/
  | numberTooLarge
  | unknownLevel (text : String)
  | unknownFormat (text : String)
  /-- Something that cannot do what is asked of it. -/
  | unable
  /-- A value of a kind that is not taken. -/
  | wrongKind
  /-- An object without an entry that is needed. -/
  | entryMissing (key : String)
  /-- An event with places cannot be filled. -/
  | unfilled (why : Log.TemplateFault)
  | timedOut (message : String)
  /-- It was not waited for any longer. -/
  | cancelled
  | snapshotUnwritable (path : String) (cause : String)
  | outputNotJson
  | outputWithoutList (kind : String)
  | configurationMissing (path : String)
  | variableUnset (name : String)
  | invalidMarkup (path : String)
  /-- A configuration file holds a scalar without a value. -/
  | unreadableScalar (why : Yaml.ScalarFault)
  /-- Data inside data, too deep to be read. -/
  | tooDeep
  | rootNotMapping (path : String)
  | invalidConfiguration (path : String) (issues : List FieldIssue)
  /-- Configuration values that no file accounts for. -/
  | invalidFields (issues : List FieldIssue)
  /-- An environment variable that should hold JSON does not. -/
  | invalidVariable
  /-- A configuration key that is not text. -/
  | keyNotText
  | invalidProject
  /-- The project file has something else than a table where the project should be. -/
  | projectNotTable
  /-- A whole number of more digits than are read or shown; where it was read, it tells how many. -/
  | longNumber (digits : Option Nat)
  | versionUnknown
  deriving DecidableEq

def Failure.message : Failure → String
  | system code path =>
    "[Errno " ++ toString code.number ++ "] " ++ code.words
      ++ (match path with
        | some p => ": " ++ Text.quoted p
        | none => "")
  | broken message => message
  | undecodable => "utf-8 error"
  | noBackingFile uri => "Document " ++ uri ++ " has no backing file"
  | lineOutOfRange line last =>
    "Line " ++ toString line ++ " out of range (0.." ++ toString last ++ ")"
  | negativeIncrement => "Counter can only increase"
  | numberTooLarge => "Number too large"
  | unknownLevel text => Text.quoted text ++ " is not a valid LogLevel"
  | unknownFormat text => Text.quoted text ++ " is not a valid LogFormat"
  | unable => "No such operation"
  | wrongKind => "Value of a wrong kind"
  | entryMissing key => Text.quoted key
  | unfilled why => why.message
  | timedOut message => message
  | cancelled => ""
  | snapshotUnwritable path cause => "Unable to write snapshot " ++ path ++ ": " ++ cause
  | outputNotJson => "Analyzer output is not JSON"
  | outputWithoutList kind => "Analyzer output has no diagnostics array (" ++ kind ++ ")"
  | configurationMissing path => "Configuration file not found: " ++ path
  | variableUnset name => "Environment variable " ++ name ++ " not found"
  | invalidMarkup path => "Invalid YAML in " ++ path
  | unreadableScalar why => why.message
  | tooDeep => "Data lies too deep"
  | rootNotMapping path => "Configuration root must be a mapping: " ++ path
  | invalidConfiguration path _ => "Invalid configuration in " ++ path
  | invalidFields _ => "Invalid configuration"
  | invalidVariable => "Invalid environment variable"
  | keyNotText => "Configuration keys must be text"
  | invalidProject => "Invalid project file"
  | projectNotTable => "The project is no table"
  | longNumber digits => Decimal.longMessage digits
  | versionUnknown => "Could not determine surge-diagnostics version"

def ErrorCode.kind : ErrorCode → String
  | notPermitted | accessDenied => "PermissionError"
  | notFound => "FileNotFoundError"
  | «exists» => "FileExistsError"
  | isDirectory => "IsADirectoryError"
  | inputOutput | badFormat | noSpace | readOnly => "OSError"

/-- The kind of a failure, as log records name it. -/
def Failure.kind : Failure → String
  | system code _ => code.kind
  | configurationMissing _ => "FileNotFoundError"
  | broken _ | versionUnknown => "RuntimeError"
  | undecodable => "UnicodeDecodeError"
  | lineOutOfRange .. => "IndexError"
  | noBackingFile _ | negativeIncrement | unknownLevel _ | unknownFormat _ | longNumber _ =>
    "ValueError"
  | timedOut _ => "TimeoutError"
  | cancelled => "CancelledError"
  | snapshotUnwritable .. => "SnapshotError"
  | outputNotJson | outputWithoutList _ => "DiagnosticsParseError"
  | variableUnset _ | invalidMarkup _ | rootNotMapping _ | invalidConfiguration .. =>
    "ConfigurationError"
  | unreadableScalar why => why.kind
  | tooDeep => "RecursionError"
  | invalidFields _ => "ValidationError"
  | invalidVariable => "SettingsError"
  | keyNotText | wrongKind => "TypeError"
  | unable => "AttributeError"
  | numberTooLarge => "OverflowError"
  | entryMissing _ => "KeyError"
  | unfilled why => why.kind
  | invalidProject => "TOMLDecodeError"
  | projectNotTable => "AttributeError"

/-- Whether a configuration is known to be the cause. -/
def Failure.isConfiguration : Failure → Bool
  | variableUnset _ | invalidMarkup _ | rootNotMapping _ | invalidConfiguration .. => true
  | _ => false

/-- Whether the operating system is the cause. -/
def Failure.isSystem : Failure → Bool
  | system .. => true
  | _ => false

/-- Whether a file that was asked for is not there. -/
def Failure.isMissing : Failure → Bool
  | system .notFound _ => true
  | configurationMissing _ => true
  | _ => false

end DiagnosticFeed
