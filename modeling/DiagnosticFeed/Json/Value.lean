import DiagnosticFeed.Keyed

/-!
# JSON values

Objects keep the order in which their keys first appeared, and have each key once. Whole numbers
and numbers written with a fraction or exponent are different values, as they are in the text.
-/

namespace DiagnosticFeed.Json

/-- A decoded value. -/
inductive Value where
  | null
  | bool (b : Bool)
  | int (n : Int)
  | float (x : Float)
  | str (s : String)
  | arr (items : List Value)
  | obj (entries : List (String × Value))
  deriving Inhabited

/-- The entries of an object. -/
abbrev Object := Keyed String Value

/-- The value of a key; an absent key reads as `null`. -/
def Object.field (o : Object) (key : String) : Value :=
  (Keyed.get? o key).getD .null

namespace Value

def object? : Value → Option Object
  | .obj o => some o
  | _ => none

def array? : Value → Option (List Value)
  | .arr xs => some xs
  | _ => none

def string? : Value → Option String
  | .str s => some s
  | _ => none

def bool? : Value → Option Bool
  | .bool b => some b
  | _ => none

/-- Whether a value is there at all. -/
def isNull : Value → Bool
  | .null => true
  | _ => false

/-- Whether a value counts as true: it is not null, false, zero or empty. -/
def isTrue : Value → Bool
  | .null | .bool false | .int 0 | .str "" | .arr [] | .obj [] => false
  | .float x => x != 0
  | _ => true

def kindName : Value → String
  | .null => "NoneType"
  | .bool _ => "bool"
  | .int _ => "int"
  | .float _ => "float"
  | .str _ => "str"
  | .arr _ => "list"
  | .obj _ => "dict"

/-- An optional value, `null` standing for none. -/
def ofOption {α : Type} (f : α → Value) : Option α → Value
  | some a => f a
  | none => .null

end Value

end DiagnosticFeed.Json
