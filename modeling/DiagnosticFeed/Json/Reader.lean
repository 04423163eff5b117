import DiagnosticFeed.Json.Value
import DiagnosticFeed.Decimal.Reading
import DiagnosticFeed.Text.Split

/-!
# Reading JSON

A recursive descent reader for one value that fills the text. Beyond the standard it takes the
words `NaN`, `Infinity` and `-Infinity`, and it sets two limits: on the digits of a whole number and
on the depth of nesting. A key given twice keeps its first place and its last value. No text holds a
surrogate, so an escape for one that is not paired reads as the replacement character.

Every function takes a budget of steps, which its result does not depend on once it exceeds twice
the length of the text.
-/

namespace DiagnosticFeed.Json

/-- Why a text is not read. -/
inductive ReadError where
  /-- The text is not a JSON value. -/
  | malformed
  /-- A whole number has too many digits. -/
  | tooManyDigits
  /-- Arrays and objects are nested too deeply. -/
  | tooDeep
  deriving DecidableEq

/-- The deepest nesting that is read. -/
def maxDepth : Nat := 980

/-- The characters allowed between values. -/
def isSpace (c : Char) : Bool :=
  c == ' ' || c == '\t' || c == '\n' || c == '\r'

/-- The text from the next character that is not space. -/
def skipSpace (cs : List Char) : List Char :=
  cs.dropWhile isSpace

/-- The value of a hexadecimal digit. -/
def hexValue? (c : Char) : Option Nat :=
  if '0' ≤ c && c ≤ '9' then some (c.toNat - 48)
  else if 'a' ≤ c && c ≤ 'f' then some (c.toNat - 87)
  else if 'A' ≤ c && c ≤ 'F' then some (c.toNat - 55)
  else none

theorem hexValue?_digitChar : ∀ d < 16, hexValue? (Nat.digitChar d) = some d := by
  decide

/-- The code unit of four hexadecimal digits. -/
def readUnit? : List Char → Option (Nat × List Char)
  | a :: b :: c :: d :: cs => do
    let a ← hexValue? a
    let b ← hexValue? b
    let c ← hexValue? c
    let d ← hexValue? d
    return (((a * 16 + b) * 16 + c) * 16 + d, cs)
  | _ => none

/-- The character of an escape's letter. -/
def simpleEscape? : Char → Option Char
  | '"' => some '"'
  | '\\' => some '\\'
  | '/' => some '/'
  | 'b' => some (Char.ofNat 8)
  | 'f' => some (Char.ofNat 12)
  | 'n' => some '\n'
  | 'r' => some '\r'
  | 't' => some '\t'
  | _ => none

/-- The character of an escape whose code unit is `u`; a pair of surrogates is one character. -/
def readEscaped (u : Nat) (cs : List Char) : Char × List Char :=
  if 0xD800 ≤ u && u ≤ 0xDBFF then
    match cs with
    | '\\' :: 'u' :: more =>
      match readUnit? more with
      | some (v, rest) =>
        if 0xDC00 ≤ v && v ≤ 0xDFFF then
          (Char.ofNat (0x10000 + (u - 0xD800) * 1024 + (v - 0xDC00)), rest)
        else (Char.ofNat 0xFFFD, cs)
      | none => (Char.ofNat 0xFFFD, cs)
    | _ => (Char.ofNat 0xFFFD, cs)
  else if 0xDC00 ≤ u && u ≤ 0xDFFF then (Char.ofNat 0xFFFD, cs)
  else (Char.ofNat u, cs)

/-- The rest of a string, after its opening quote; `acc` holds what was read, last first. -/
def readString : Nat → List Char → List Char → Except ReadError (String × List Char)
  | 0, _, _ => .error .malformed
  | _ + 1, _, [] => .error .malformed
  | fuel + 1, acc, c :: cs =>
    if c == '"' then .ok (String.ofList acc.reverse, cs)
    else if c == '\\' then
      match cs with
      | 'u' :: more =>
        match readUnit? more with
        | some (u, rest) =>
          let (x, rest) := readEscaped u rest
          readString fuel (x :: acc) rest
        | none => .error .malformed
      | e :: more =>
        match simpleEscape? e with
        | some x => readString fuel (x :: acc) more
        | none => .error .malformed
      | [] => .error .malformed
    else if c.toNat < 32 then .error .malformed
    else readString fuel (c :: acc) cs

/-- The digits at the front of a text. -/
def takeNumerals (cs : List Char) : List Char × List Char :=
  (cs.takeWhile Char.isDigit, cs.dropWhile Char.isDigit)

def numeralsValue (ds : List Char) : Nat :=
  Decimal.ofDigits (ds.map fun d ↦ d.toNat - 48)

/-- A fraction: the point counts only with a digit after it. -/
def readFraction (cs : List Char) : List Char × List Char :=
  match cs with
  | '.' :: more =>
    match takeNumerals more with
    | ([], _) => ([], cs)
    | (ds, rest) => (ds, rest)
  | _ => ([], cs)

/-- An exponent: it counts only with a digit in it. -/
def readExponent (cs : List Char) : Option Int × List Char :=
  match cs with
  | e :: more =>
    if e == 'e' || e == 'E' then
      let (negative, body) := Decimal.takeSign more
      match takeNumerals body with
      | ([], _) => (none, cs)
      | (ds, rest) =>
        let n : Int := numeralsValue ds
        (some (if negative then -n else n), rest)
    else (none, cs)
  | [] => (none, [])

/-- A number, after its sign. The whole part is a zero or starts with another digit. -/
def readNumber (negative : Bool) (cs : List Char) : Except ReadError (Value × List Char) :=
  let (whole, rest) := match cs with
    | '0' :: more => (['0'], more)
    | _ => takeNumerals cs
  if whole.isEmpty then .error .malformed
  else
    let (fraction, rest) := readFraction rest
    let (exponent, rest) := readExponent rest
    if fraction.isEmpty && exponent.isNone then
      if Decimal.maxDigits < whole.length then .error .tooManyDigits
      else
        let n : Int := numeralsValue whole
        .ok (.int (if negative then -n else n), rest)
    else
      let digits := (whole ++ fraction).dropWhile (· == '0')
      let x := Decimal.nearestFloat digits.length (numeralsValue digits)
        (exponent.getD 0 - fraction.length)
      .ok (.float (if negative then -x else x), rest)

/-- A value given by a word. -/
def readWord (cs : List Char) (word : String) (v : Value) : Except ReadError (Value × List Char) :=
  match Text.stripStart? word.toList cs with
  | some rest => .ok (v, rest)
  | none => .error .malformed

mutual

/-- A value, whose first character is the first of the text. -/
def readValue : Nat → Nat → List Char → Except ReadError (Value × List Char)
  | 0, _, _ => .error .malformed
  | _ + 1, _, [] => .error .malformed
  | fuel + 1, depth, c :: cs =>
    if c == '"' then do
      let (s, rest) ← readString fuel [] cs
      return (.str s, rest)
    else if c == '\x7b' then
      match depth with
      | 0 => .error .tooDeep
      | depth + 1 =>
        match skipSpace cs with
        | '\x7d' :: rest => .ok (.obj [], rest)
        | rest => readEntries fuel depth [] rest
    else if c == '[' then
      match depth with
      | 0 => .error .tooDeep
      | depth + 1 =>
        match skipSpace cs with
        | ']' :: rest => .ok (.arr [], rest)
        | rest => readItems fuel depth [] rest
    else if c == 'n' then readWord (c :: cs) "null" .null
    else if c == 't' then readWord (c :: cs) "true" (.bool true)
    else if c == 'f' then readWord (c :: cs) "false" (.bool false)
    else if c == 'N' then readWord (c :: cs) "NaN" (.float (0.0 / 0.0))
    else if c == 'I' then readWord (c :: cs) "Infinity" (.float (1.0 / 0.0))
    else if c == '-' then
      match cs with
      | 'I' :: _ => readWord cs "Infinity" (.float (-1.0 / 0.0))
      | _ => readNumber true cs
    else readNumber false (c :: cs)

/-- The items of an array from the next one on; `acc` holds those read, last first. -/
def readItems : Nat → Nat → List Value → List Char → Except ReadError (Value × List Char)
  | 0, _, _, _ => .error .malformed
  | fuel + 1, depth, acc, cs => do
    let (v, rest) ← readValue fuel depth cs
    match skipSpace rest with
    | ',' :: rest => readItems fuel depth (v :: acc) (skipSpace rest)
    | ']' :: rest => return (.arr (v :: acc).reverse, rest)
    | _ => .error .malformed

def readEntries : Nat → Nat → Object → List Char → Except ReadError (Value × List Char)
  | 0, _, _, _ => .error .malformed
  | fuel + 1, depth, acc, '"' :: cs => do
    let (key, rest) ← readString fuel [] cs
    match skipSpace rest with
    | ':' :: rest =>
      let (v, rest) ← readValue fuel depth (skipSpace rest)
      match skipSpace rest with
      | ',' :: rest => readEntries fuel depth (Keyed.set acc key v) (skipSpace rest)
      | '\x7d' :: rest => return (.obj (Keyed.set acc key v), rest)
      | _ => .error .malformed
    | _ => .error .malformed
  | _ + 1, _, _, _ => .error .malformed

end

def parse (s : String) : Except ReadError Value := do
  let cs := s.toList
  let (v, rest) ← readValue (2 * cs.length + 2) maxDepth (skipSpace cs)
  if (skipSpace rest).isEmpty then return v else throw .malformed

end DiagnosticFeed.Json
