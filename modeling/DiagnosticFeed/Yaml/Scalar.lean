import DiagnosticFeed.Config.Datum
import DiagnosticFeed.Text.Base64
import DiagnosticFeed.Text.LetterCase
import DiagnosticFeed.Yaml.Form

/-!
# The values of scalars

The text of a scalar as a value of the kind that its tag names. A tag can promise what the text does
not keep, as nothing but the tag decides how the text is read. Numbers are read more freely than
their forms suggest: digits come from any script, blanks around them do not count, and the letter of
a base can stand twice.
-/

namespace DiagnosticFeed.Yaml

open Config (Datum)

/-- A scalar that has no value. -/
def noValue {α : Type} (why : ScalarFault) : Except Fault α :=
  .error (.noValue why)

/-- The truth value of a word in any letter case. -/
def truthOf (s : String) : Except Fault Bool :=
  match truthWords.find? fun w ↦ w.1 == Text.lower s with
  | some w => .ok w.2
  | none => noValue (.badTruth (Text.lower s))

/-! ## Whole numbers -/

/-- The value of a character as a digit: a digit of any script, or a letter from ten on. -/
def digitOf? (c : Char) : Option Nat :=
  match Text.digitValue? c with
  | some d => some d
  | none =>
    if 'a' ≤ c && c ≤ 'z' then some (c.toNat - 87)
    else if 'A' ≤ c && c ≤ 'Z' then some (c.toNat - 55)
    else none

/-- The letter that marks a base, behind a zero. -/
def baseLetter? (base : Nat) : Option Char :=
  [(2, 'b'), (8, 'o'), (16, 'x')].lookup base

/-- Text without the mark of its base. -/
def dropMark (base : Nat) (cs : List Char) : List Char :=
  match cs with
  | z :: l :: rest =>
    if Text.digitValue? z == some 0 && baseLetter? base == some l.toLower then rest else cs
  | _ => cs

def digitsOf (base : Nat) : List Char → List Nat
  | [] => []
  | c :: cs =>
    match digitOf? c with
    | some d => if d < base then d :: digitsOf base cs else []
    | none => []

/-- The whole number that a text spells in a base, with blanks and a sign before it. Only decimal
numbers can be too long to be read. -/
def numberIn (base : Nat) (text : List Char) : Except Fault Int :=
  let (negative, cs) := Decimal.takeSign (Text.trimSpace text)
  let cs := dropMark base cs
  let ds := digitsOf base cs
  if base = 10 && Decimal.maxDigits < ds.length then noValue (.longNumeral ds.length)
  else if ds.isEmpty || ds.length < cs.length then
    noValue (.badNumeral base (String.ofList text))
  else
    let n : Int := (ds.foldl (fun n d ↦ base * n + d) 0 : Nat)
    .ok (if negative then -n else n)

def places (cs : List Char) : List (List Char) :=
  cs.foldr (fun c ps ↦
    match c, ps with
    | ':', ps => [] :: ps
    | c, p :: ps => (c :: p) :: ps
    | c, [] => [[c]]) [[]]

/-- The whole number that a text without underscores and sign spells. -/
def unsignedInt (cs : List Char) : Except Fault Int :=
  match cs with
  | [] => noValue .emptyNumber
  | '0' :: 'b' :: ds => numberIn 2 ds
  | '0' :: 'x' :: ds => numberIn 16 ds
  | '0' :: _ => numberIn 8 cs
  | _ =>
    if cs.contains ':' then do
      return (← (places cs).mapM (numberIn 10)).foldl (fun n d ↦ 60 * n + d) 0
    else numberIn 10 cs

def intOf (s : String) : Except Fault Int :=
  let (negative, cs) := Decimal.takeSign (s.toList.filter (· ≠ '_'))
  (unsignedInt cs).map fun n ↦ if negative then -n else n

/-! ## Numbers with a point -/

/-- The number that a text in base ten spells. -/
def point (cs : List Char) : Except Fault Float :=
  match Decimal.readFloat? cs with
  | some x => .ok x
  | none => noValue (.badDecimal (String.ofList cs))

/-- The sum of numbers in base sixty, the last place first. What a place counts for is exact until
it is multiplied, and can be too large for that. -/
def sixtieths : Nat → Float → List Float → Except Fault Float
  | _, sum, [] => .ok sum
  | unit, sum, d :: ds =>
    let weight := Decimal.ofRatio unit 1
    if weight == 1.0 / 0.0 then noValue .tooManyPlaces
    else sixtieths (unit * 60) (sum + d * weight) ds

/-- The number that a lower case text without underscores and sign spells. -/
def unsignedFloat (cs : List Char) : Except Fault Float :=
  if cs == ".inf".toList then .ok (1.0 / 0.0)
  else if cs == ".nan".toList then .ok (0.0 / 0.0)
  else if cs.contains ':' then do
    sixtieths 1 0.0 (← (places cs).mapM point).reverse
  else point cs

def floatOf (s : String) : Except Fault Float :=
  let cs := (Text.lower (String.ofList (s.toList.filter (· ≠ '_')))).toList
  if cs.isEmpty then noValue .emptyNumber
  else
    let (negative, cs) := Decimal.takeSign cs
    (unsignedFloat cs).map fun x ↦ if negative then -x else x

/-! ## Dates and bytes -/

/-- A date, with a line end behind it at most. No setting takes one, so it is not kept. -/
def dateOf (s : String) : Except Fault Datum :=
  match stamp? (withoutBreak s.toList) with
  | none => noValue .notADate
  | some d =>
    match d.fault? with
    | some why => noValue why
    | none => .ok (.other "date")

def bytesOf (text : String) : Except Fault (List UInt8) :=
  if !text.toList.all fun c ↦ c.toNat < 128 then .error .badBinary
  else match Text.fromBase64? text.toList with
    | some bs => .ok bs
    | none => .error .badBinary

/-- The value of a text that stands for a scalar. Collections are no scalars, and the marks of keys
have no value of their own. -/
def Tag.valueOf (s : String) : Tag → Except Fault Datum
  | null => .ok .null
  | bool => (truthOf s).map .bool
  | int => (intOf s).map .int
  | float => (floatOf s).map .float
  | date => dateOf s
  | text => .ok (.text s)
  | binary => (bytesOf s).map .bytes
  | seq | map | pairs | set => .error .tagMismatch
  | merge | value | unknown => .error .unknownTag

end DiagnosticFeed.Yaml
