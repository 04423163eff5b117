import DiagnosticFeed.Decimal.Reading
import DiagnosticFeed.Decimal.Shortest
import DiagnosticFeed.Keyed
import DiagnosticFeed.Text.Quoted
import DiagnosticFeed.Toml.Moment

/-!
# TOML values

Values and the tables that hold them. A path of keys leads from a table into the tables below it,
which are made on the way where they are missing; through an array of tables it leads into the last
one.
-/

namespace DiagnosticFeed.Toml

/-- Why a text is no document. -/
inductive Fault where
  | malformed
  /-- A whole number in base ten of too many digits. -/
  | longNumber (digits : Nat)
  /-- Too many values inside each other. -/
  | tooDeep
  deriving DecidableEq

abbrev Reading := Except Fault

/-- What is read, if there is anything. -/
def Reading.of {α : Type} : Option α → Reading α
  | some a => .ok a
  | none => .error .malformed

inductive Value where
  | text (s : String)
  | int (n : Int)
  | float (x : Float)
  | bool (b : Bool)
  | moment (m : Moment)
  | arr (items : List Value)
  | table (entries : List (String × Value))
  deriving Inhabited

abbrev Table := Keyed String Value

/-- The keys that lead to a value. -/
abbrev Path := List String

namespace Value

mutual

def literal : Value → String
  | text s => Text.quoted s
  | int n => toString n
  | float x => Decimal.plain.write x
  | bool b => if b then "True" else "False"
  | moment m => m.expression
  | arr items => "[" ++ ", ".intercalate (literals items) ++ "]"
  | table entries => "\x7b" ++ ", ".intercalate (entryLiterals entries) ++ "\x7d"

def literals : List Value → List String
  | [] => []
  | v :: vs => v.literal :: literals vs

def entryLiterals : List (String × Value) → List String
  | [] => []
  | (k, v) :: rest => (Text.quoted k ++ ": " ++ v.literal) :: entryLiterals rest

end

mutual

/-- Whether a value is or holds a whole number of too many decimal digits to be shown. -/
def hasLongNumber : Value → Bool
  | int n => Decimal.pow10 Decimal.maxDigits ≤ n.natAbs
  | arr items => anyLongNumber items
  | table entries => anyLongEntry entries
  | _ => false

/-- Whether one of some values has a whole number that is too long. -/
def anyLongNumber : List Value → Bool
  | [] => false
  | v :: vs => v.hasLongNumber || anyLongNumber vs

/-- Whether the value of one of some entries has a whole number that is too long. -/
def anyLongEntry : List (String × Value) → Bool
  | [] => false
  | (_, v) :: rest => v.hasLongNumber || anyLongEntry rest

end

mutual

/-- How many values lie inside each other. -/
def depth : Value → Nat
  | arr items => depthOfItems items + 1
  | table entries => depthOfEntries entries + 1
  | _ => 1

/-- The greatest depth among values. -/
def depthOfItems : List Value → Nat
  | [] => 0
  | v :: vs => max v.depth (depthOfItems vs)

def depthOfEntries : List (String × Value) → Nat
  | [] => 0
  | (_, v) :: rest => max v.depth (depthOfEntries rest)

end

/-- How many values inside each other can be shown. -/
def maxDepth : Nat := 980

/-- Whether a value says anything: it is not false, zero or empty. -/
def isTelling : Value → Bool
  | text s => !s.isEmpty
  | int n => n ≠ 0
  | float x => x != 0
  | bool b => b
  | moment _ => true
  | arr items => !items.isEmpty
  | table entries => !entries.isEmpty

/-- A value as text: a string or moment as it is written, anything else by its literal. -/
def display : Value → String
  | text s => s
  | moment m => m.written
  | v => v.literal

/-- Whether keys can be set inside a value by one statement only. -/
def isCollection : Value → Bool
  | arr _ | table _ => true
  | _ => false

end Value

/-- Changes the table that a path leads to. There is no answer if something else than a table is on
the path, or if the change has none. -/
def alter (f : Table → Option Table) : Path → Table → Option Table
  | [], t => f t
  | k :: ks, t =>
    match t.get? k with
    | none => (alter f ks []).map fun below ↦ t.set k (.table below)
    | some (.table below) => (alter f ks below).map fun below ↦ t.set k (.table below)
    | some (.arr items) =>
      match items.getLast? with
      | some (.table below) => (alter f ks below).map fun below ↦
          t.set k (.arr (items.dropLast ++ [.table below]))
      | _ => none
    | some _ => none

/-- Sets a key that must be new. -/
def putNew (k : String) (v : Value) (t : Table) : Option Table :=
  if t.has k then none else some (t.set k v)

/-- Adds an empty table to an array of tables, which starts with it. -/
def appendTable (k : String) (t : Table) : Option Table :=
  match t.get? k with
  | none => some (t.set k (.arr [.table []]))
  | some (.arr items) => some (t.set k (.arr (items ++ [.table []])))
  | some _ => none

end DiagnosticFeed.Toml
