import DiagnosticFeed.Yaml.Date
import DiagnosticFeed.Yaml.Tag

/-!
# What a plain scalar looks like

A scalar without quotes and without a tag is what it looks like: a truth value, a number, nothing, a
date, or else text. Whole numbers can be binary, octal, decimal, hexadecimal or in base sixty, with
colons between the places; underscores between digits are ignored.

The recognizers decide on the form alone. A form can still have no value, such as a hexadecimal
number without digits or a month past December. A single line end behind a form is passed over,
which only a scalar in quotes or in a block can have.
-/

namespace DiagnosticFeed.Yaml

def withoutBreak (cs : List Char) : List Char :=
  if cs.getLast? = some '\n' then cs.dropLast else cs

/-! ## Words -/

/-- The lower case spellings of truth values. -/
def truthWords : List (String × Bool) :=
  [("yes", true), ("no", false), ("true", true), ("false", false), ("on", true), ("off", false)]

/-- A word with a capital at its front. -/
def capitalized (s : String) : String :=
  match s.toList with
  | [] => s
  | c :: cs => String.ofList (c.toUpper :: cs)

/-- The spellings of a word that are recognized: lower case, with a capital, or upper case. -/
def spellings (word : String) : List String :=
  [word, capitalized word, word.map Char.toUpper]

/-- Whether a text is a truth value. -/
def isTruth (s : String) : Bool :=
  truthWords.any fun w ↦ (spellings w.1).contains s

/-- Whether a text stands for nothing. -/
def isNull (s : String) : Bool :=
  s == "~" || (spellings "null").contains s

/-- Characters that stand for something else at the start of a scalar, and for nothing alone. -/
def isIndicator (s : String) : Bool :=
  ["!", "&", "*"].contains s

/-! ## The forms of numbers -/

/-- Digits and the underscores between them. -/
def isSpacedDigit (c : Char) : Bool :=
  c.isDigit || c == '_'

def isOctal (c : Char) : Bool :=
  '0' ≤ c && c ≤ '7'

def isHex (c : Char) : Bool :=
  c.isDigit || ('a' ≤ c && c ≤ 'f') || ('A' ≤ c && c ≤ 'F')

/-- What is behind the places of base sixty: each a colon and one or two digits. -/
def dropSixties : List Char → List Char
  | ':' :: a :: b :: cs =>
    if '0' ≤ a && a ≤ '5' && b.isDigit then dropSixties cs
    else if a.isDigit then dropSixties (b :: cs)
    else ':' :: a :: b :: cs
  | [':', a] => if a.isDigit then [] else [':', a]
  | cs => cs
  termination_by cs => cs.length

/-- Whether text behind a sign has the form of a whole number. -/
def isUnsignedInt : List Char → Bool
  | '0' :: 'b' :: ds => !ds.isEmpty && ds.all fun c ↦ c == '0' || c == '1' || c == '_'
  | '0' :: 'x' :: ds => !ds.isEmpty && ds.all fun c ↦ isHex c || c == '_'
  | '0' :: ds => ds.all fun c ↦ isOctal c || c == '_'
  | d :: ds => d.isDigit && (dropSixties (ds.dropWhile isSpacedDigit)).isEmpty
  | [] => false

def isInt (cs : List Char) : Bool :=
  isUnsignedInt (Decimal.takeSign cs).2

/-- Whether text is nothing, or an exponent with its sign. -/
def isExponent : List Char → Bool
  | [] => true
  | e :: s :: ds =>
    (e == 'e' || e == 'E') && (s == '+' || s == '-') && !ds.isEmpty && ds.all Char.isDigit
  | _ => false

/-- Whether text behind a sign has the form of a number with a point. -/
def isUnsignedFloat (cs : List Char) : Bool :=
  match cs with
  | '.' :: word => (spellings "inf").contains (String.ofList word)
  | d :: ds =>
    let tail := ds.dropWhile isSpacedDigit
    d.isDigit && (match tail with
      | '.' :: more => isExponent (more.dropWhile isSpacedDigit)
      | ':' :: _ =>
        match dropSixties tail with
        | '.' :: more => more.all isSpacedDigit
        | _ => false
      | _ => false)
  | [] => false

def isFloat (cs : List Char) : Bool :=
  isUnsignedFloat (Decimal.takeSign cs).2 ||
    match cs with
    | '.' :: d :: ds =>
      ["nan", "NaN", "NAN"].contains (String.ofList (d :: ds)) ||
        (d.isDigit && isExponent (ds.dropWhile isSpacedDigit))
    | _ => false

/-! ## Tags -/

/-- What a text of at least one character, without a line end behind it, looks like. -/
def Tag.ofForm (cs : List Char) : Tag :=
  let s := String.ofList cs
  if isTruth s then .bool
  else if isFloat cs then .float
  else if isInt cs then .int
  else if s == "<<" then .merge
  else if isNull s then .null
  else if isDate cs then .date
  else if s == "=" then .value
  else if isIndicator s then .unknown
  else .text

/-- What a plain scalar looks like. -/
def Tag.ofPlain (s : String) : Tag :=
  if s.isEmpty then .null else .ofForm (withoutBreak s.toList)

end DiagnosticFeed.Yaml
