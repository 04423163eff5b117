import DiagnosticFeed.Json.Value

/-!
# Spreads

A summary of observed values: how many there are, their sum, their ends, their mean, the median and
the value that 95 of 100 do not exceed. The sum is formed over the sorted values, from the least on.
-/

namespace DiagnosticFeed

structure Spread where
  count : Nat
  sum : Float
  least : Float
  greatest : Float
  mean : Float
  median : Float
  high : Float

namespace Spread

/-- The middle of a sorted list, or halfway between its two middles. -/
def middle (sorted : List Float) : Float :=
  let n := sorted.length
  let upper := sorted.getD (n / 2) 0
  if n % 2 = 1 then upper else (sorted.getD (n / 2 - 1) 0 + upper) / 2

/-- The place of the value that 95 of 100 do not exceed, among `n`. -/
def highIndex (n : Nat) : Nat :=
  min (n - 1) (Float.ofNat n * 0.95).toUInt64.toNat

def of? (values : List Float) : Option Spread :=
  let sorted := values.mergeSort fun a b ↦ decide (a ≤ b)
  match sorted with
  | [] => none
  | least :: _ =>
    let n := sorted.length
    let sum := sorted.foldl (· + ·) 0
    some {
      count := n
      sum := sum
      least := least
      greatest := sorted.getLastD least
      mean := sum / Float.ofNat n
      median := middle sorted
      high := sorted.getD (highIndex n) 0 }

/-- A summary as JSON; there is nothing but zeros in that of no values. -/
def toJson : Option Spread → Json.Value
  | some s => .obj [("count", .int s.count), ("sum", .float s.sum), ("min", .float s.least),
      ("max", .float s.greatest), ("mean", .float s.mean), ("p50", .float s.median),
      ("p95", .float s.high)]
  | none => .obj (["count", "sum", "min", "max", "mean", "p50", "p95"].map fun k ↦ (k, .int 0))

end Spread

end DiagnosticFeed
