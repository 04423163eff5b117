import DiagnosticFeed.Decimal.Places
import DiagnosticFeed.Json.Display

/-!
# Texts with places for values

A place is a percent sign and a letter that says how the value is written, with flags, a width and a
precision between them. A name in parentheses asks for the value of that name; a place without one
takes the only value there is, which can be taken once. Two percent signs stand for one.
-/

namespace DiagnosticFeed.Log

/-- Why a text cannot be filled. -/
inductive TemplateFault where
  /-- A place and a value do not go together, or one of them is missing. -/
  | mismatch
  /-- There is no value of a name. -/
  | nameMissing
  /-- A number that is out of the range of its place. -/
  | outOfRange
  | notANumber
  | openPlace
  | openName
  | tooWide
  | tooPrecise
  | unknownLetter (c : Char) (index : Nat)
  deriving DecidableEq

def TemplateFault.message : TemplateFault → String
  | mismatch => "values do not match"
  | nameMissing => "no such name"
  | outOfRange => "number out of range"
  | notANumber => "cannot convert float NaN to integer"
  | openPlace => "incomplete format"
  | openName => "incomplete format key"
  | tooWide => "width too big"
  | tooPrecise => "precision too big"
  | unknownLetter c index =>
    "unsupported format character '"
      ++ String.singleton (if 31 ≤ c.toNat && c.toNat ≤ 126 then c else '?')
      ++ "' (0x" ++ String.ofList (Nat.toDigits 16 c.toNat) ++ ") at index " ++ toString index

def TemplateFault.kind : TemplateFault → String
  | mismatch => "TypeError"
  | nameMissing => "KeyError"
  | outOfRange => "OverflowError"
  | _ => "ValueError"

/-- A step of filling. -/
abbrev Filled (α : Type) := Except TemplateFault α

/-- The values for a text. -/
structure Supply where
  /-- The value for places without a name. -/
  value : Json.Value
  taken : Bool := false
  /-- Whether places may ask for names, … -/
  named : Bool
  /-- … and the values of names, if there are any at all. -/
  entries : Option Json.Object := none

namespace Supply

/-- The supply that a value is. Text has no names. Names cannot be asked of a list, but it need not
be taken either. -/
def ofValue : Json.Value → Supply
  | .obj entries => { value := .obj entries, named := true, entries := some entries }
  | .str s => { value := .str s, named := false }
  | v => { value := v, named := true }

/-- Takes the value. -/
def take (s : Supply) : Filled (Json.Value × Supply) :=
  if s.taken then .error .mismatch else .ok (s.value, { s with taken := true })

/-- The supply whose value is that of a name. -/
def ask (s : Supply) (name : String) : Filled Supply :=
  match s.entries with
  | none => .error .mismatch
  | some entries =>
    match Keyed.get? entries name with
    | some v => .ok { s with value := v, taken := false }
    | none => .error .nameMissing

end Supply

/-! ## Places -/

/-- What stands between the percent sign and the letter of a place. -/
structure Place where
  left : Bool := false
  plus : Bool := false
  blank : Bool := false
  marked : Bool := false
  zeros : Bool := false
  width : Option Nat := none
  precision : Option Nat := none

namespace Place

/-- Sets the flag that a character stands for. -/
def flag? (p : Place) : Char → Option Place
  | '-' => some { p with left := true }
  | '+' => some { p with plus := true }
  | ' ' => some { p with blank := true }
  | '#' => some { p with marked := true }
  | '0' => some { p with zeros := true }
  | _ => none

def flags (p : Place) : List Char → Place × List Char
  | [] => (p, [])
  | c :: cs =>
    match p.flag? c with
    | some p => p.flags cs
    | none => (p, c :: cs)

end Place

/-- The widest place. -/
def maxWidth : Nat := 9223372036854775807

/-- The highest precision. -/
def maxPrecision : Nat := 2147483647

/-- A whole number taken from the supply. -/
def takeCount (s : Supply) : Filled (Int × Supply) := do
  match ← s.take with
  | (.int n, s) => return (n, s)
  | (.bool b, s) => return (if b then 1 else 0, s)
  | _ => throw .mismatch

/-- A number in digits, as long as it is within a bound. -/
def digitsWithin (bound : Nat) (e : TemplateFault) (cs : List Char) : Filled (Nat × List Char) := do
  let ds := cs.takeWhile Char.isDigit
  let n := ds.foldl (fun n c ↦ 10 * n + (c.toNat - 48)) 0
  if bound < n then throw e
  return (n, cs.drop ds.length)

/-- The width of a place. A star takes it from the supply; below zero it means the left side. -/
def width (p : Place) (s : Supply) (cs : List Char) : Filled (Place × Supply × List Char) :=
  match cs with
  | '*' :: cs => do
    let (n, s) ← takeCount s
    if maxWidth < n.natAbs then throw .outOfRange
    return ({ p with width := some n.natAbs, left := p.left || n < 0 }, s, cs)
  | c :: _ =>
    if c.isDigit then do
      let (n, cs) ← digitsWithin maxWidth .tooWide cs
      return ({ p with width := some n }, s, cs)
    else .ok (p, s, cs)
  | [] => .ok (p, s, [])

def precision (p : Place) (s : Supply) (cs : List Char) : Filled (Place × Supply × List Char) :=
  match cs with
  | '.' :: '*' :: cs => do
    let (n, s) ← takeCount s
    if maxPrecision < n.natAbs then throw .outOfRange
    return ({ p with precision := some n.toNat }, s, cs)
  | '.' :: cs => do
    let (n, cs) ← digitsWithin maxPrecision .tooPrecise cs
    return ({ p with precision := some n }, s, cs)
  | cs => .ok (p, s, cs)

/-- A name up to the parenthesis that closes it. -/
def nameEnd : Nat → List Char → Option (List Char × List Char)
  | _, [] => none
  | depth, c :: cs =>
    if c == ')' then
      match depth with
      | 0 => some ([], cs)
      | depth + 1 => (nameEnd depth cs).map fun (n, rest) ↦ (c :: n, rest)
    else (nameEnd (if c == '(' then depth + 1 else depth) cs).map fun (n, rest) ↦ (c :: n, rest)

/-- The supply for a place, after the name that it may ask for. -/
def named (s : Supply) : List Char → Filled (Supply × List Char)
  | '(' :: cs =>
    if !s.named then .error .mismatch
    else
      match nameEnd 0 cs with
      | none => .error .openName
      | some (name, rest) => do return (← s.ask (String.ofList name), rest)
  | cs => .ok (s, cs)

/-! ## Values in places -/

/-- A text with every character outside of ASCII escaped. -/
def asciiOnly (s : String) : List Char :=
  s.toList.flatMap fun c ↦
    if c.toNat < 0x80 then [c]
    else if c.toNat < 0x100 then '\\' :: 'x' :: Text.hexDigits 2 c.toNat
    else if c.toNat < 0x10000 then '\\' :: 'u' :: Text.hexDigits 4 c.toNat
    else '\\' :: 'U' :: Text.hexDigits 8 c.toNat

/-- A number of characters, filled up on the left. -/
def fillLeft (fill : Char) (n : Nat) (cs : List Char) : List Char :=
  List.replicate (n - cs.length) fill ++ cs

/-- A text in its place. -/
def placeText (p : Place) (cs : List Char) : List Char :=
  let cs := match p.precision with
    | some n => cs.take n
    | none => cs
  let blanks := List.replicate (p.width.getD 0 - cs.length) ' '
  if p.left then cs ++ blanks else blanks ++ cs

/-- A number in its place, given by whether it is negative, the mark of its base and its digits. -/
def placeNumber (p : Place) (negative : Bool) (mark digits : List Char) : List Char :=
  let sign := if negative then ['-'] else if p.plus then ['+'] else if p.blank then [' '] else []
  let missing := p.width.getD 0 - (sign.length + mark.length + digits.length)
  if p.left then sign ++ mark ++ digits ++ List.replicate missing ' '
  else if p.zeros then sign ++ mark ++ List.replicate missing '0' ++ digits
  else List.replicate missing ' ' ++ sign ++ mark ++ digits

/-- The whole number that a value has; a fraction is cut if that is `allowed`. -/
def wholeOf (allowed : Bool) : Json.Value → Filled Int
  | .int n => .ok n
  | .bool b => .ok (if b then 1 else 0)
  | .float x =>
    if !allowed then .error .mismatch
    else
      match Decimal.truncate? x with
      | some n => .ok n
      | none => .error (if x.isNaN then .notANumber else .outOfRange)
  | _ => .error .mismatch

/-- A whole number in its place. -/
def placeWhole (p : Place) (letter : Char) (n : Int) : List Char :=
  let base := if letter == 'x' || letter == 'X' then 16 else if letter == 'o' then 8 else 10
  let digits := fillLeft '0' (p.precision.getD 0) (Nat.toDigits base n.natAbs)
  let mark := if p.marked && base != 10 then ['0', letter] else []
  placeNumber p (n < 0) mark (if letter == 'X' then digits.map Char.toUpper else digits)

/-- The number that a value is. -/
def decimalOf : Json.Value → Filled Float
  | .float x => .ok x
  | .int n =>
    let x := Float.ofInt n
    if x.isInf then .error .outOfRange else .ok x
  | .bool b => .ok (if b then 1 else 0)
  | _ => .error .mismatch

/-- A number with a point in its place. -/
def placeDecimal (p : Place) (letter : Char) (x : Float) : List Char :=
  let places := p.precision.getD 6
  let (negative, digits) := match Decimal.Parts.ofFloat x with
    | .nan => (false, "nan".toList)
    | .infinite negative => (negative, "inf".toList)
    | .finite negative m q =>
      (negative, match letter.toLower with
        | 'f' => Decimal.fixedPlaces p.marked places m q
        | 'e' => Decimal.scientific p.marked places m q
        | _ => Decimal.general p.marked places m q)
  placeNumber p negative [] (if letter.isUpper then digits.map Char.toUpper else digits)

/-- The character that a value is: text of one, or a number. -/
def characterOf : Json.Value → Filled Char
  | .str s =>
    match s.toList with
    | [c] => .ok c
    | _ => .error .mismatch
  | .int n => if 0 ≤ n && n < 0x110000 then .ok (Char.ofNat n.toNat) else .error .outOfRange
  | .bool b => .ok (Char.ofNat (if b then 1 else 0))
  | _ => .error .mismatch

/-- A value in the place of a letter, which stands at an index. -/
def placeValue (p : Place) (letter : Char) (index : Nat) (v : Json.Value) : Filled (List Char) :=
  if letter == 's' then .ok (placeText p v.display.toList)
  else if letter == 'r' then .ok (placeText p (Json.literal v).toList)
  else if letter == 'a' then .ok (placeText p (asciiOnly (Json.literal v)))
  else if letter == 'c' then (characterOf v).map fun c ↦ placeText { p with precision := none } [c]
  else if ['d', 'i', 'u'].contains letter then (wholeOf true v).map (placeWhole p letter)
  else if ['o', 'x', 'X'].contains letter then (wholeOf false v).map (placeWhole p letter)
  else if ['e', 'E', 'f', 'F', 'g', 'G'].contains letter then
    (decimalOf v).map (placeDecimal p letter)
  else .error (.unknownLetter letter index)

/-- What a place stands for, from behind its percent sign on, and the text behind it. The index is
that of a place in a text of `size` characters. -/
def place (size : Nat) (s : Supply) (cs : List Char) : Filled (List Char × Supply × List Char) := do
  let (s, cs) ← named s cs
  let (p, cs) := Place.flags {} cs
  let (p, s, cs) ← width p s cs
  let (p, s, cs) ← precision p s cs
  let cs := match cs with
    | c :: rest => if c == 'h' || c == 'l' || c == 'L' then rest else cs
    | [] => []
  match cs with
  | [] => throw .openPlace
  | letter :: cs =>
    let (v, s) ← s.take
    return (← placeValue p letter (size - cs.length - 1) v, s, cs)

/-- Fills the places of a text of `size` characters. -/
def fillFrom (size : Nat) : Nat → Supply → List Char → Filled (List Char)
  | _, s, [] => if s.named || s.taken then .ok [] else .error .mismatch
  | 0, _, _ => .error .openPlace
  | n + 1, s, '%' :: '%' :: cs => do return '%' :: (← fillFrom size n s cs)
  | n + 1, s, '%' :: cs => do
    let (found, s, cs) ← place size s cs
    return found ++ (← fillFrom size n s cs)
  | n + 1, s, c :: cs => do return c :: (← fillFrom size n s cs)

/-- A text with its places filled. -/
def fill (template : String) (s : Supply) : Filled String := do
  let cs := template.toList
  return String.ofList (← fillFrom cs.length (cs.length + 1) s cs)

end DiagnosticFeed.Log
