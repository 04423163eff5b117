import DiagnosticFeed.Decimal.Ratio
import DiagnosticFeed.Text.Blank
import DiagnosticFeed.Text.Classes

/-!
# Reading numbers

Whole numbers and binary64 numbers as people and programs write them in text: white space around
the number is ignored, digits may come from any script, and a single underscore may stand between
two digits. A whole number of more than `maxDigits` digits is refused, as converting it would take
time quadratic in its length.
-/

namespace DiagnosticFeed.Decimal

open Text

/-- The longest whole number that is read. -/
def maxDigits : Nat := 4300

/-- What is said of a whole number of too many digits; where it was to be read, how many it has. -/
def longMessage (digits : Option Nat) : String :=
  "Exceeds the limit (" ++ toString maxDigits ++ " digits) for integer string conversion"
    ++ (match digits with
      | some n => ": value has " ++ toString n ++ " digits"
      | none => "")
    ++ "; use sys.set_int_max_str_digits() to increase the limit"

/-- The value of a digit sequence, most significant digit first. -/
def ofDigits (ds : List Nat) : Nat :=
  ds.foldl (fun n d ↦ 10 * n + d) 0

/-- The digits at the front of a text, and what follows them. An underscore between two digits is
passed over. -/
def takeDigits : List Char → List Nat × List Char
  | [] => ([], [])
  | c :: '_' :: cs =>
    match digitValue? c with
    | none => ([], c :: '_' :: cs)
    | some d =>
      match takeDigits cs with
      | ([], _) => ([d], '_' :: cs)
      | (ds, rest) => (d :: ds, rest)
  | c :: cs =>
    match digitValue? c with
    | none => ([], c :: cs)
    | some d =>
      let (ds, rest) := takeDigits cs
      (d :: ds, rest)

/-- Whether a text starts with a minus sign, and the text without its sign. -/
def takeSign : List Char → Bool × List Char
  | '-' :: cs => (true, cs)
  | '+' :: cs => (false, cs)
  | cs => (false, cs)

/-- Reads a whole number that fills the text. -/
def readInt? (cs : List Char) : Option Int :=
  let (negative, body) := takeSign (trimSpace cs)
  match takeDigits body with
  | ([], _) => none
  | (ds, []) =>
    if ds.length ≤ maxDigits then
      some (if negative then -(ofDigits ds : Int) else ofDigits ds)
    else none
  | _ => none

/-- The binary64 number nearest to `m · 10 ^ e`. Exponents that put the number out of range on
either side are settled without computing the power. -/
def nearestFloat (digitCount m : Nat) (e : Int) : Float :=
  if m == 0 then 0.0
  else if 400 < (digitCount : Int) + e then 1.0 / 0.0
  else if (digitCount : Int) + e < -400 then 0.0
  else if e < 0 then ofRatio m (pow10 e.natAbs)
  else ofRatio (m * pow10 e.natAbs) 1

/-- Words that name a number without digits, in any letter case. -/
def readNamed? (cs : List Char) : Option Float :=
  let word := String.ofList (cs.map Char.toLower)
  if word == "inf" || word == "infinity" then some (1.0 / 0.0)
  else if word == "nan" then some (0.0 / 0.0)
  else none

/-- The exponent part at the end of a number; empty text stands for the exponent zero. -/
def readExponent? : List Char → Option Int
  | [] => some 0
  | c :: cs =>
    if c == 'e' || c == 'E' then
      let (negative, body) := takeSign cs
      match takeDigits body with
      | ([], _) => none
      | (ds, []) => some (if negative then -(ofDigits ds : Int) else ofDigits ds)
      | _ => none
    else none

/-- The unsigned part of a number with optional fraction and exponent. -/
def readUnsigned? (cs : List Char) : Option Float :=
  match readNamed? cs with
  | some x => some x
  | none =>
    let (whole, rest) := takeDigits cs
    let (fraction, rest) := match rest with
      | '.' :: more => takeDigits more
      | _ => ([], rest)
    if whole.isEmpty && fraction.isEmpty then none
    else (readExponent? rest).map fun e ↦
      let ds := (whole ++ fraction).dropWhile (· == 0)
      nearestFloat ds.length (ofDigits ds) (e - fraction.length)

/-- Reads a binary64 number that fills the text. -/
def readFloat? (cs : List Char) : Option Float :=
  let (negative, body) := takeSign (trimSpace cs)
  (readUnsigned? body).map fun x ↦ if negative then -x else x

end DiagnosticFeed.Decimal
