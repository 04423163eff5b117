import DiagnosticFeed.Decimal.Reading
import DiagnosticFeed.Failure

/-!
# Whole numbers in settings

A whole number in its plain form is a zero or digits that do not begin with one, after a minus sign
if it is negative. The installed library also takes white space around it, a plus sign or zeros in
front of it, single underscores between its digits, and a fraction of nothing but zeros behind it.
-/

namespace DiagnosticFeed.Config

/-- The whole number that a text in plain form spells. Too many digits are told even where
something else follows them. -/
def plainInt (cs : List Char) : Except FieldError Int :=
  let (negative, body) := match cs with
    | '-' :: body => (true, body)
    | body => (false, body)
  let digits := body.takeWhile Char.isDigit
  match digits with
  | [] => .error .unparsableInteger
  | d :: ds =>
    if d == '0' && !ds.isEmpty then .error .unparsableInteger
    else if Decimal.maxDigits < digits.length + (if negative then 1 else 0) then
      .error .oversizedInteger
    else if digits.length < body.length then .error .unparsableInteger
    else
      let n : Int := Decimal.ofDigits (digits.map fun c ↦ c.toNat - 48)
      .ok (if negative then -n else n)

/-- What is left of a text when the zeros in front of it, and underscores among them, are dropped.
The last of them, `before`, stays where nothing or a fraction follows. -/
def dropZeros? (before : Char) : List Char → Option (List Char)
  | [] => some [before]
  | c :: cs =>
    if c == '0' || c == '_' then dropZeros? c cs
    else if c == '-' || c.isDigit then some (c :: cs)
    else if c == '.' then some (before :: c :: cs)
    else none

/-- A text without the zeros in front of its first other digit or its sign. -/
def withoutZeros? : List Char → Option (List Char)
  | [] => none
  | c :: cs =>
    if c == '0' then dropZeros? c cs
    else if c == '-' || c.isDigit then some (c :: cs)
    else none

/-- A text without the plus sign in front of it, which no other sign may follow. -/
def withoutPlus? : List Char → Option (List Char)
  | '+' :: '-' :: _ => none
  | '+' :: cs => some cs
  | cs => some cs

/-- A text without a decimal point and the zeros behind it, if there are some and nothing else. -/
def withoutZeroFraction (cs : List Char) : List Char :=
  match cs.dropWhile (· ≠ '.') with
  | _ :: zeros =>
    if !zeros.isEmpty && zeros.all (· == '0') then cs.takeWhile (· ≠ '.') else cs
  | [] => cs

/-- Whether all underscores stand alone between two other characters; `after` says whether another
character comes before the text. -/
def areSingle (after : Bool) : List Char → Bool
  | [] => after
  | c :: cs => if c == '_' then after && areSingle false cs else areSingle true cs

/-- A text without its underscores, if they all stand alone. -/
def withoutUnderscores (cs : List Char) : List Char :=
  if areSingle false cs then cs.filter (· ≠ '_') else cs

/-- The plain form of a text that may be a whole number. -/
def plainForm? (cs : List Char) : Option (List Char) := do
  let cs ← withoutPlus? (Text.trimSpace cs)
  let cs ← withoutZeros? cs
  return withoutUnderscores (withoutZeroFraction cs)

/-- The whole number that a text spells. -/
def intOfText (s : String) : Except FieldError Int :=
  match plainInt s.toList, plainForm? s.toList with
  | .error .unparsableInteger, some cs => plainInt cs
  | verdict, _ => verdict

end DiagnosticFeed.Config
