import DiagnosticFeed.Json.Value
import DiagnosticFeed.Decimal.Shortest
import DiagnosticFeed.Text.Quoted

/-!
# Writing JSON

A value as one line, or spread over lines with an indent of two blanks per level. Text that leaves
the program is plain ASCII; text that it prints for a person may keep its letters.
-/

namespace DiagnosticFeed.Json

/-- Which characters a string keeps as they are. -/
inductive Alphabet where
  /-- Visible ASCII only. -/
  | ascii
  /-- Everything but control characters. -/
  | unicode
  deriving DecidableEq

/-- Numbers as JSON spells them, with words for those that JSON has not. -/
def numberLayout : Decimal.Layout :=
  { Decimal.plain with nan := "NaN", infinity := "Infinity" }

/-- An escape by code point; a character beyond the basic plane is a pair of surrogates. -/
def escapeUnits (n : Nat) : List Char :=
  let unit (u : Nat) : List Char := '\\' :: 'u' :: Text.hexDigits 4 u
  if n < 0x10000 then unit n
  else unit (0xD800 + (n - 0x10000) / 1024) ++ unit (0xDC00 + (n - 0x10000) % 1024)

def writeChar (alphabet : Alphabet) (c : Char) : List Char :=
  if c == '"' then ['\\', '"']
  else if c == '\\' then ['\\', '\\']
  else if c == '\n' then ['\\', 'n']
  else if c == '\r' then ['\\', 'r']
  else if c == '\t' then ['\\', 't']
  else if c.toNat == 8 then ['\\', 'b']
  else if c.toNat == 12 then ['\\', 'f']
  else if c.toNat < 32 then escapeUnits c.toNat
  else if c.toNat < 127 || alphabet == .unicode then [c]
  else escapeUnits c.toNat

def writeString (alphabet : Alphabet) (s : String) : String :=
  String.ofList ('"' :: (s.toList.flatMap (writeChar alphabet) ++ ['"']))

/-- The parts between brackets, parted by commas, on lines of their own when `indent` is given. -/
def bracket (opening closing : String) (indent : Option Nat) (parts : List String) : String :=
  match parts, indent with
  | [], _ => opening ++ closing
  | parts, none => opening ++ ", ".intercalate parts ++ closing
  | parts, some n =>
    let newline (k : Nat) : String := "\n" ++ String.ofList (List.replicate (2 * k) ' ')
    opening ++ newline (n + 1) ++ ("," ++ newline (n + 1)).intercalate parts ++ newline n
      ++ closing

mutual

/-- A value; `indent` is the level it stands at, or `none` for one line. -/
def writeAt (alphabet : Alphabet) (indent : Option Nat) : Value → String
  | .null => "null"
  | .bool true => "true"
  | .bool false => "false"
  | .int n => toString n
  | .float x => numberLayout.write x
  | .str s => writeString alphabet s
  | .arr items => bracket "[" "]" indent (writeItems alphabet (indent.map (· + 1)) items)
  | .obj entries =>
    bracket "\x7b" "\x7d" indent (writeEntries alphabet (indent.map (· + 1)) entries)

/-- The items of an array. -/
def writeItems (alphabet : Alphabet) (indent : Option Nat) : List Value → List String
  | [] => []
  | v :: vs => writeAt alphabet indent v :: writeItems alphabet indent vs

def writeEntries (alphabet : Alphabet) (indent : Option Nat) : Object → List String
  | [] => []
  | (k, v) :: rest =>
    (writeString alphabet k ++ ": " ++ writeAt alphabet indent v)
      :: writeEntries alphabet indent rest

end

def Value.compact (v : Value) : String :=
  writeAt .ascii none v

def Value.indented (alphabet : Alphabet) (v : Value) : String :=
  writeAt alphabet (some 0) v

end DiagnosticFeed.Json
