import DiagnosticFeed.Decimal.Ratio
import DiagnosticFeed.Quantity

/-!
# Time

Points and spans of time are whole numbers of nanoseconds, so that they add up exactly. A time that
is given with a decimal point is rounded to the nearest nanosecond; one that is shown as a whole
number of milliseconds is rounded down.
-/

namespace DiagnosticFeed

/-- A point or span of time in nanoseconds. -/
abbrev Time := Int

namespace Time

def millisecond : Time := 1000000

def second : Time := 1000000000

def ofMilliseconds (n : Int) : Time :=
  n * millisecond

/-- A quantity of some unit of time; there is none if it is not finite. -/
def ofQuantity? (unit : Nat) : Quantity → Option Time
  | .whole n => some (n * unit)
  | .decimal x =>
    match Decimal.Parts.ofFloat x with
    | .finite negative m q =>
      let t : Int := Decimal.roundRatio (m * Decimal.pow2 q.toNat * unit) (Decimal.pow2 (-q).toNat)
      some (if negative then -t else t)
    | _ => none

/-- A number of seconds; there is none if it is not finite. -/
def ofSeconds? (q : Quantity) : Option Time :=
  ofQuantity? second.toNat q

/-- The milliseconds of a time, rounded down. -/
def wholeMilliseconds (t : Time) : Int :=
  t / millisecond

/-- A time in milliseconds, the nearest binary64 number. -/
def toMilliseconds (t : Time) : Float :=
  Decimal.ofIntRatio t millisecond.toNat

/-- A time in seconds, the nearest binary64 number. -/
def toSeconds (t : Time) : Float :=
  Decimal.ofIntRatio t second.toNat

/-- From one point of time to another in milliseconds, by a clock that shows milliseconds. -/
def elapsed (start stop : Time) : Float :=
  stop.toMilliseconds - start.toMilliseconds

end Time

end DiagnosticFeed
