import DiagnosticFeed.Json.Value
import DiagnosticFeed.Text.LetterCase

/-!
# Severities

Three severities are shown. On the wire a severity is a word in any letter case; words that are not
known, and values that are no words, stand for an error.
-/

namespace DiagnosticFeed

/-- How serious a diagnostic is. -/
inductive Severity where
  | error
  | warning
  | information
  deriving DecidableEq, Repr, Inhabited

namespace Severity

def word : Severity → String
  | error => "error"
  | warning => "warning"
  | information => "information"

def ofJson (v : Json.Value) : Severity :=
  match v with
  | .str s =>
    match Text.upper s with
    | "WARNING" => warning
    | "NOTE" => information
    | "INFO" => information
    | _ => error
  | _ => error

end Severity

end DiagnosticFeed
