/-!
# Shortest decimal text of a binary64 number

A finite number is `m · 2 ^ q`. The reals that round to it form an interval around it, closed when
`m` is even. Among the decimals of the fewest digits inside that interval the one nearest to the
number is taken, a tie going to the even one. All comparisons are between natural numbers, so
nothing here rounds.

`Layout` holds the decisions a text format makes on top: where positional writing ends, how short
an exponent may be, and the names of the numbers that have no digits.
-/

namespace DiagnosticFeed.Decimal

abbrev pow2 (n : Nat) : Nat := Nat.pow 2 n

abbrev pow10 (n : Nat) : Nat := Nat.pow 10 n

/-- A binary64 number taken apart. -/
inductive Parts where
  | nan
  | infinite (negative : Bool)
  /-- The number `m · 2 ^ q`, or its negation. -/
  | finite (negative : Bool) (m : Nat) (q : Int)

/-- Sign, significand and exponent of a number. -/
def Parts.ofFloat (x : Float) : Parts :=
  let bits := x.toBits.toNat
  let negative := bits / pow2 63 == 1
  let exponent : Nat := bits / pow2 52 % pow2 11
  let fraction : Nat := bits % pow2 52
  if exponent == 2047 then
    if fraction == 0 then .infinite negative else .nan
  else if exponent == 0 then .finite negative fraction (-1074)
  else .finite negative (pow2 52 + fraction) ((exponent : Int) - 1075)

/-- The integer part, rounding toward zero; `none` for a number that is not finite. -/
def truncate? (x : Float) : Option Int :=
  match Parts.ofFloat x with
  | .finite negative m q =>
    let n := if 0 ≤ q then m * pow2 q.toNat else m / pow2 (-q).toNat
    some (if negative then -(n : Int) else n)
  | _ => none

/-- Whether a number is finite and has no fractional part. -/
def isIntegral (x : Float) : Bool :=
  match Parts.ofFloat x with
  | .finite _ m q => 0 ≤ q || m % pow2 (-q).toNat == 0
  | _ => false

/-! ## The rounding interval and its decimals -/

structure Rounding where
  low : Nat
  mid : Nat
  high : Nat
  unit : Int
  closed : Bool

/-- The interval of `m · 2 ^ q`; its lower half is shorter below a power of two. -/
def Rounding.of (m : Nat) (q : Int) : Rounding where
  low := if m == pow2 52 && -1074 < q then 4 * m - 1 else 4 * m - 2
  mid := 4 * m
  high := 4 * m + 2
  unit := q - 2
  closed := m % 2 == 0

/-- A decimal `digits · 10 ^ exponent`. -/
structure Scaled where
  digits : Nat
  exponent : Int

/-- What one unit of the interval weighs against a multiple of `10 ^ k`, in a common measure. -/
def Rounding.scale (r : Rounding) (k : Int) : Nat :=
  pow2 r.unit.toNat * pow10 (-k).toNat

/-- What `10 ^ k` weighs in the measure of `Rounding.scale`. -/
def Rounding.cell (r : Rounding) (k : Int) : Nat :=
  pow10 k.toNat * pow2 (-r.unit).toNat

/-- Whether `d · 10 ^ k` rounds to the number. -/
def Rounding.contains (r : Rounding) (d : Nat) (k : Int) : Bool :=
  let s := r.scale k
  let x := d * r.cell k
  if r.closed then r.low * s ≤ x && x ≤ r.high * s else r.low * s < x && x < r.high * s

/-- The multiple of `10 ^ k` nearest to the number among its two neighbours that round to it. -/
def Rounding.nearest? (r : Rounding) (k : Int) : Option Nat :=
  let s := r.scale k
  let c := r.cell k
  let d := r.mid * s / c
  match r.contains d k, r.contains (d + 1) k with
  | false, false => none
  | true, false => some d
  | false, true => some (d + 1)
  | true, true =>
    let below := r.mid * s - d * c
    let above := (d + 1) * c - r.mid * s
    some (if below < above || (below == above && d % 2 == 0) then d else d + 1)

/-- The `e` with `10 ^ (e - 1) ≤ m · 2 ^ q < 10 ^ e`, found by correcting an estimate. -/
def magnitude (m : Nat) (q : Int) : Int :=
  let reaches (e : Int) : Bool :=
    pow10 e.toNat * pow2 (-q).toNat ≤ m * pow2 q.toNat * pow10 (-e).toNat
  let e := ((m.log2 : Int) + q) * 30103 / 100000 + 1
  if reaches e then e + 1 else if reaches (e - 1) then e else e - 1

/-- The shortest decimal that rounds to `m · 2 ^ q`, for `m` not zero. -/
def shortest (m : Nat) (q : Int) : Scaled :=
  let r := Rounding.of m q
  let e := magnitude m q
  let hit := (List.range 17).findSome? fun (n : Nat) ↦
    let k : Int := e - ((n : Int) + 1)
    (r.nearest? k).map fun d ↦ Scaled.mk d k
  hit.getD ⟨m * pow2 q.toNat, 0⟩

/-- The digits without the zeros at their end, and how many zeros there were. -/
def dropZeros : List Char → List Char × Nat := fun ds ↦
  let kept := (ds.reverse.dropWhile (· == '0')).reverse
  (kept, ds.length - kept.length)

/-! ## Writing -/

/-- The decisions of a text format. -/
structure Layout where
  /-- A number from `10 ^ positionalLow` on is written without an exponent, … -/
  positionalLow : Int
  /-- … up to, and without, `10 ^ positionalHigh`. -/
  positionalHigh : Int
  /-- The fewest digits of an exponent. -/
  exponentWidth : Nat
  nan : String
  infinity : String

/-- The text of a number under a layout. -/
def Layout.write (l : Layout) (x : Float) : String :=
  match Parts.ofFloat x with
  | .nan => l.nan
  | .infinite negative => sign negative ++ l.infinity
  | .finite negative 0 _ => sign negative ++ "0.0"
  | .finite negative m q =>
    let s := shortest m q
    let (ds, zeros) := dropZeros (Nat.toDigits 10 s.digits)
    let point : Int := ds.length + zeros + s.exponent
    sign negative ++ String.ofList (place ds point)
where
  sign (negative : Bool) : String := if negative then "-" else ""
  /-- The digits with the decimal point after the first `point` of them. -/
  place (ds : List Char) (point : Int) : List Char :=
    if l.positionalLow < point && point ≤ l.positionalHigh then
      if point ≤ 0 then '0' :: '.' :: (List.replicate (-point).toNat '0' ++ ds)
      else
        let n := point.toNat
        let whole := ds.take n ++ List.replicate (n - ds.length) '0'
        let fraction := ds.drop n
        whole ++ '.' :: (if fraction.isEmpty then ['0'] else fraction)
    else
      let e := point - 1
      let digits := Nat.toDigits 10 e.natAbs
      let padded := List.replicate (l.exponentWidth - digits.length) '0' ++ digits
      let head := match ds with
        | [d] => [d]
        | d :: rest => d :: '.' :: rest
        | [] => []
      head ++ 'e' :: (if e < 0 then '-' else '+') :: padded

/-- Numbers from `0.0001` up to `10 ^ 16` are written positionally. -/
def plain : Layout := ⟨-4, 16, 2, "nan", "inf"⟩

end DiagnosticFeed.Decimal
