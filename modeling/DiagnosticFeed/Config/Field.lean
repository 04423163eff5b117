import DiagnosticFeed.Config.Datum
import DiagnosticFeed.Config.WholeNumber
import DiagnosticFeed.Decimal.Shortest
import DiagnosticFeed.Failure
import DiagnosticFeed.FilePath
import DiagnosticFeed.Text.Utf8

/-!
# Checking single settings

What data the installed library takes for a number, a truth value, a text, a path or one of some
words. Settings come from files and from environment variables, where everything is text, so text
that spells a number or a truth value is taken for it. Bytes are taken for what their text is taken for, except as a path or
as one of some words.
-/

namespace DiagnosticFeed.Config

/-- A checked setting. -/
abbrev Checked (α : Type) := Except FieldError α

/-! ## Whole numbers -/

/-- The bound of the numbers that a floating point number is taken for. -/
def wordBound : Int := Int.ofNat (Decimal.pow2 63)

/-- The whole number that a floating point number is. -/
def intOfFloat (x : Float) : Checked Int :=
  match Decimal.truncate? x with
  | none => .error .infiniteNumber
  | some n =>
    if !Decimal.isIntegral x then .error .fractionalNumber
    else if -wordBound < n && n < wordBound then .ok n
    else .error .oversizedInteger

/-- What the text of bytes is taken for, and what is wrong if they have none. -/
def ofBytes {α : Type} (bs : List UInt8) (check : String → Checked α) (e : FieldError) :
    Checked α :=
  match Text.decode? bs with
  | some s => check s
  | none => .error e

/-- The whole number that data is taken for. -/
def int : Datum → Checked Int
  | .bool b => .ok (if b then 1 else 0)
  | .int n => .ok n
  | .float x => intOfFloat x
  | .text s => intOfText s
  | .bytes bs => ofBytes bs intOfText .unparsableInteger
  | _ => .error .notAnInteger

/-- A whole number within bounds. -/
def intBetween (least most : Int) (d : Datum) : Checked Int := do
  let n ← int d
  if n < least then throw .tooSmall
  if most < n then throw .tooLarge
  return n

/-! ## Truth values -/

def trueWords : List String := ["1", "t", "y", "on", "yes", "true"]

def falseWords : List String := ["0", "f", "n", "no", "off", "false"]

/-- The truth value of a word, in any case of ASCII letters. -/
def boolOfText (s : String) : Checked Bool :=
  let word := s.map Char.toLower
  if trueWords.contains word then .ok true
  else if falseWords.contains word then .ok false
  else .error .unparsableBoolean

/-- The truth value of a number. -/
def boolOfInt (n : Int) : Checked Bool :=
  if n = 0 then .ok false
  else if n = 1 then .ok true
  else if -wordBound ≤ n && n < wordBound then .error .unparsableBoolean
  else .error .notABoolean

/-- The truth value that data is taken for. -/
def bool : Datum → Checked Bool
  | .bool b => .ok b
  | .int n => boolOfInt n
  | .float x =>
    match intOfFloat x with
    | .ok n => boolOfInt n
    | .error _ => .error .notABoolean
  | .text s => boolOfText s
  | .bytes bs => ofBytes bs boolOfText .unparsableBoolean
  | _ => .error .notABoolean

/-! ## Texts -/

/-- The text that data is. -/
def text : Datum → Checked String
  | .text s => .ok s
  | .bytes bs => ofBytes bs .ok .undecodableText
  | _ => .error .notText

def path : Datum → Checked FilePath
  | .text s => .ok (FilePath.ofString s)
  | _ => .error .notAPath

/-- The value that a word stands for. -/
def choice {α : Type} (ofName? : String → Option α) : Datum → Checked α
  | .text s =>
    match ofName? s with
    | some a => .ok a
    | none => .error .notAmongChoices
  | _ => .error .notAmongChoices

end DiagnosticFeed.Config
