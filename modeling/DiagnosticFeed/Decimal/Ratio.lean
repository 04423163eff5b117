import DiagnosticFeed.Decimal.Shortest

/-!
# Rounding ratios

A ratio of natural numbers, rounded to a whole number or to binary64. Both round to the nearest and
send a tie to the even neighbour. The binary64 numbers next to a ratio are found by scaling it into
the range of their significands, so that rounding it to a whole number is all that is left.
-/

namespace DiagnosticFeed.Decimal

/-- The whole number nearest to `n / d`. -/
def roundRatio (n d : Nat) : Nat :=
  let whole := n / d
  let rest := n % d
  if 2 * rest < d then whole
  else if d < 2 * rest then whole + 1
  else whole + whole % 2

/-- The nearest whole number of units of `2 ^ e` in `n / d`. -/
def unitsOf (n d : Nat) (e : Int) : Nat :=
  roundRatio (n * pow2 (-e).toNat) (d * pow2 e.toNat)

/-- The exponent of the unit in which the significand of `n / d` is whole. -/
def unitExponent (n d : Nat) : Int :=
  let e : Int := (n.log2 : Int) - d.log2 - 52
  let full := n * pow2 (-e).toNat / (d * pow2 e.toNat)
  max (if full < pow2 52 then e - 1 else e) (-1074)

/-- The binary64 number `m · 2 ^ e`, for a significand in range; beyond the greatest it is
infinite. -/
def ofSignificand (m : Nat) (e : Int) : Float :=
  if 971 < e then 1.0 / 0.0
  else if m < pow2 52 then Float.ofBits (UInt64.ofNat m)
  else Float.ofBits (UInt64.ofNat ((e + 1075).toNat * pow2 52 + (m - pow2 52)))

/-- The binary64 number nearest to `n / d`. -/
def ofRatio (n d : Nat) : Float :=
  if n = 0 then 0
  else
    let e := unitExponent n d
    let m := unitsOf n d e
    if m = pow2 53 then ofSignificand (pow2 52) (e + 1) else ofSignificand m e

/-- The binary64 number nearest to `n / d`, for an integer `n`. -/
def ofIntRatio (n : Int) (d : Nat) : Float :=
  let x := ofRatio n.natAbs d
  if n < 0 then -x else x

end DiagnosticFeed.Decimal
