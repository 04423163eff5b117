import DiagnosticFeed.Decimal.Ratio
import DiagnosticFeed.Json.Value

/-!
# Quantities

A quantity is a number as it was given: whole, of any size, or with a decimal point. Whole numbers
are added and compared exactly, also with the others; where one meets a decimal one in a sum it is
rounded first, which it can be too large for.
-/

namespace DiagnosticFeed

/-- A number as it was given. -/
inductive Quantity where
  | whole (n : Int)
  | decimal (x : Float)

namespace Quantity

def toJson : Quantity → Json.Value
  | whole n => .int n
  | decimal x => .float x

/-- The quantity that a value is; truth values count as one and zero. -/
def ofJson? : Json.Value → Option Quantity
  | .int n => some (.whole n)
  | .float x => some (.decimal x)
  | .bool b => some (.whole (if b then 1 else 0))
  | _ => none

/-- The binary64 number nearest to a quantity, unless it is too large. -/
def toFloat? : Quantity → Option Float
  | whole n =>
    let x := Decimal.ofIntRatio n 1
    if x.isInf then none else some x
  | decimal x => some x

def isNegative : Quantity → Bool
  | whole n => n < 0
  | decimal x => x < 0

def isNotPositive : Quantity → Bool
  | whole n => n ≤ 0
  | decimal x => x ≤ 0

def negated : Quantity → Quantity
  | whole n => .whole (-n)
  | decimal x => .decimal (-x)

/-- How a whole number compares with a decimal one, if it does. -/
def compareWhole? (n : Int) (x : Float) : Option Ordering :=
  match Decimal.Parts.ofFloat x with
  | .nan => none
  | .infinite negative => some (if negative then .gt else .lt)
  | .finite negative m q =>
    let m : Int := if negative then -m else m
    some (compare (n * Decimal.pow2 (-q).toNat) (m * Decimal.pow2 q.toNat))

def less : Quantity → Quantity → Bool
  | whole a, whole b => a < b
  | decimal x, decimal y => x < y
  | whole n, decimal x => compareWhole? n x == some .lt
  | decimal x, whole n => compareWhole? n x == some .gt

/-- The sum of two quantities, unless one is too large for the other. -/
def add? : Quantity → Quantity → Option Quantity
  | whole a, whole b => some (.whole (a + b))
  | a, b => do return .decimal ((← a.toFloat?) + (← b.toFloat?))

/-- The sum of quantities, formed from the first one on. -/
def sum? (qs : List Quantity) : Option Quantity :=
  qs.foldlM add? (.whole 0)

/-- A part of a quantity, rounded once, unless it is too large. -/
def part? (q : Quantity) (count : Nat) : Option Float :=
  match q with
  | whole n =>
    let x := Decimal.ofIntRatio n count
    if x.isInf then none else some x
  | decimal x => some (x / Decimal.ofRatio count 1)

end Quantity

end DiagnosticFeed
