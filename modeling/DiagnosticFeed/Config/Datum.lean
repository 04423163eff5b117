import DiagnosticFeed.Json.Value

/-!
# Configuration data

Data as a configuration source gives it, before anything is checked. A mapping's keys need not be
text. Where two sources give mappings they are merged entry by entry, all the way down; otherwise
the upper source has its way.
-/

namespace DiagnosticFeed.Config

/-- Unchecked data. -/
inductive Datum where
  | null
  | bool (b : Bool)
  | int (n : Int)
  | float (x : Float)
  | text (s : String)
  | bytes (bs : List UInt8)
  | seq (items : List Datum)
  | map (entries : List (Datum × Datum))
  /-- Something of a kind that no setting takes, such as a date. -/
  | other (word : String)
  deriving Inhabited

/-- The entries of a mapping. -/
abbrev Entries := List (Datum × Datum)

namespace Datum

def isText (key : String) : Datum → Bool
  | text s => s == key
  | _ => false

def text? : Datum → Option String
  | text s => some s
  | _ => none

def isNull : Datum → Bool
  | null => true
  | _ => false

/-- Whether data counts as true: it is not null, false, zero or empty. -/
def isTrue : Datum → Bool
  | null => false
  | bool b => b
  | int n => n ≠ 0
  | float x => x != 0
  | text s => !s.isEmpty
  | bytes bs => !bs.isEmpty
  | seq items => !items.isEmpty
  | map entries => !entries.isEmpty
  | other _ => true

/-- The value of a text key among the entries of a mapping. -/
def lookup (key : String) (entries : Entries) : Option Datum :=
  (entries.find? (·.1.isText key)).map (·.2)

/-- Sets the value of a text key, in place if it is there. -/
def put (key : String) (v : Datum) : Entries → Entries
  | [] => [(.text key, v)]
  | e :: es => if e.1.isText key then (e.1, v) :: es else e :: put key v es

mutual

/-- Data over other data. -/
def mergedOver : Datum → Datum → Datum
  | .map upper, .map lower => .map (overEntries upper lower)
  | upper, _ => upper

/-- The entries of a mapping over those of another; those that are in both stay in their place. -/
def overEntries : Entries → Entries → Entries
  | [], lower => lower
  | (k, u) :: upper, lower =>
    match k.text? with
    | none => overEntries upper (lower ++ [(k, u)])
    | some key =>
      match lookup key lower with
      | some l => overEntries upper (put key (mergedOver u l) lower)
      | none => overEntries upper (lower ++ [(k, u)])

end

/-- Changes what is at the end of a path of keys, making mappings on the way. What is on the way
already and is no mapping stays. -/
def alterAt (f : Option Datum → Datum) : List String → Datum → Datum
  | [], there => there
  | [key], .map entries => .map (put key (f (lookup key entries)) entries)
  | key :: keys, .map entries =>
    .map (put key (alterAt f keys ((lookup key entries).getD (.map []))) entries)
  | _ :: _, there => there

mutual

def ofJson : Json.Value → Datum
  | .null => .null
  | .bool b => .bool b
  | .int n => .int n
  | .float x => .float x
  | .str s => .text s
  | .arr items => .seq (ofItems items)
  | .obj entries => .map (ofEntries entries)

def ofItems : List Json.Value → List Datum
  | [] => []
  | v :: vs => ofJson v :: ofItems vs

def ofEntries : List (String × Json.Value) → Entries
  | [] => []
  | (k, v) :: rest => (.text k, ofJson v) :: ofEntries rest

end

end Datum

end DiagnosticFeed.Config
