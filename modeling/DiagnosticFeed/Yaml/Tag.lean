/-!
# Tags

What a node is said to be. A tag is written as a name of any kind, but only few names mean something
here; a node with any other tag has no value.
-/

namespace DiagnosticFeed.Yaml

/-- What a node is said to be. -/
inductive Tag where
  | null
  | bool
  | int
  | float
  | date
  | text
  | binary
  | seq
  | map
  /-- A sequence of mappings with one entry each, in an order that counts or not. -/
  | pairs
  | set
  /-- The key whose value is a mapping to be merged in. -/
  | merge
  /-- The key of a mapping's usual value. -/
  | value
  | unknown
  deriving DecidableEq, Repr

/-- What the names of YAML's own tags start with. -/
def coreStart : String := "tag:yaml.org,2002:"

/-- The names of YAML's own tags behind their common start. -/
def coreNames : List (String × Tag) :=
  [("null", .null), ("bool", .bool), ("int", .int), ("float", .float), ("timestamp", .date),
    ("str", .text), ("binary", .binary), ("seq", .seq), ("map", .map), ("omap", .pairs),
    ("pairs", .pairs), ("set", .set), ("merge", .merge), ("value", .value)]

def Tag.ofName (name : String) : Tag :=
  ((coreNames.find? fun e ↦ coreStart ++ e.1 == name).map (·.2)).getD .unknown

end DiagnosticFeed.Yaml
