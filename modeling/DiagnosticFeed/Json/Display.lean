import DiagnosticFeed.Json.Value
import DiagnosticFeed.Decimal.Shortest
import DiagnosticFeed.Text.Quoted

/-!
# Values shown as text

How a value reads inside a message: a string as it is, anything else by its literal. Inside an array
or object strings are quoted.
-/

namespace DiagnosticFeed.Json

mutual

def literal : Value → String
  | .null => "None"
  | .bool true => "True"
  | .bool false => "False"
  | .int n => toString n
  | .float x => Decimal.plain.write x
  | .str s => Text.quoted s
  | .arr items => "[" ++ ", ".intercalate (literals items) ++ "]"
  | .obj entries => "\x7b" ++ ", ".intercalate (entryLiterals entries) ++ "\x7d"

def literals : List Value → List String
  | [] => []
  | v :: vs => literal v :: literals vs

def entryLiterals : Object → List String
  | [] => []
  | (k, v) :: rest => (Text.quoted k ++ ": " ++ literal v) :: entryLiterals rest

end

def Value.display : Value → String
  | .str s => s
  | v => literal v

end DiagnosticFeed.Json
