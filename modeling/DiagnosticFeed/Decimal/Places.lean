import DiagnosticFeed.Decimal.Ratio

/-!
# Decimal text with a given number of places

A finite binary64 number is `m · 2 ^ q`, so its decimals can be cut to a number of places exactly; a
tie goes to the even digit. The three styles are a fixed number of places behind the point, a fixed
number of them behind the first digit with an exponent, and a fixed number of digits in whichever of
the two is handier, then without zeros at the end.
-/

namespace DiagnosticFeed.Decimal

/-- The number `m · 2 ^ q · 10 ^ places` as a whole number. -/
def wholeAt (m : Nat) (q places : Int) : Nat :=
  roundRatio (m * pow2 q.toNat * pow10 places.toNat) (pow2 (-q).toNat * pow10 (-places).toNat)

/-- Digits in front of a point and behind it. The point stays without digits behind it if `pointed`
says so. -/
def withPoint (pointed : Bool) (whole fraction : List Char) : List Char :=
  whole ++ (if fraction.isEmpty && !pointed then [] else '.' :: fraction)

def fixedPlaces (pointed : Bool) (places : Nat) (m : Nat) (q : Int) : List Char :=
  let ds := Nat.toDigits 10 (wholeAt m q places)
  let ds := List.replicate (places + 1 - ds.length) '0' ++ ds
  withPoint pointed (ds.take (ds.length - places)) (ds.drop (ds.length - places))

/-- The digits of a number, the first of them and `places` more, and the power of ten of the
first. -/
def leadingDigits (places : Nat) (m : Nat) (q : Int) : List Char × Int :=
  if m = 0 then (List.replicate (places + 1) '0', 0)
  else
    let e := magnitude m q - 1
    let ds := Nat.toDigits 10 (wholeAt m q (places - e))
    if places + 1 < ds.length then (ds.take (places + 1), e + 1) else (ds, e)

/-- A power of ten behind the digits. -/
def exponentText (e : Int) : List Char :=
  let ds := Nat.toDigits 10 e.natAbs
  'e' :: (if e < 0 then '-' else '+') :: (List.replicate (2 - ds.length) '0' ++ ds)

/-- A fixed number of places behind the first digit, and an exponent. -/
def scientific (pointed : Bool) (places : Nat) (m : Nat) (q : Int) : List Char :=
  let (ds, e) := leadingDigits places m q
  withPoint pointed (ds.take 1) (ds.drop 1) ++ exponentText e

/-- Digits without the zeros at their end. -/
def withoutEndZeros (ds : List Char) : List Char :=
  (ds.reverse.dropWhile (· == '0')).reverse

/-- A fixed number of digits in the handier style; zeros at the end stay only if the point does. -/
def general (pointed : Bool) (digits : Nat) (m : Nat) (q : Int) : List Char :=
  let count := max digits 1
  let kept (fraction : List Char) : List Char :=
    if pointed then fraction else withoutEndZeros fraction
  let (ds, e) := leadingDigits (count - 1) m q
  if -4 ≤ e && e < count then
    let ds := List.replicate (-e).toNat '0' ++ ds
    withPoint pointed (ds.take (e.toNat + 1)) (kept (ds.drop (e.toNat + 1)))
  else withPoint pointed (ds.take 1) (kept (ds.drop 1)) ++ exponentText e

end DiagnosticFeed.Decimal
