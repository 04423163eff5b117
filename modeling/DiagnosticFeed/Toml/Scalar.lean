import DiagnosticFeed.Decimal.Reading
import DiagnosticFeed.Json.Reader
import DiagnosticFeed.Toml.Value

/-!
# TOML scalars

Strings in four forms, numbers in four bases, dates and times. Each reader takes the text from a
place on and gives a value with the text behind it.

A string is basic or literal, on one line or on several. Only basic strings have escapes. Three
quotes end a string of several lines, and up to two more right before them belong to it.
-/

namespace DiagnosticFeed.Toml

def isBlank (c : Char) : Bool :=
  c == ' ' || c == '\t'

def skipBlanks (cs : List Char) : List Char :=
  cs.dropWhile isBlank

/-- A text without the blanks and line ends at its front. -/
def skipLines (cs : List Char) : List Char :=
  cs.dropWhile fun c ↦ isBlank c || c == '\n'

/-- The control characters that no line holds. -/
def isControl (c : Char) : Bool :=
  (c.toNat < 32 && c != '\t') || c.toNat == 127

/-! ## Strings -/

/-- The character of an escape with a fixed number of hexadecimal digits. -/
def hexEscape (n : Nat) (cs : List Char) : Option (List Char × List Char) :=
  match (cs.take n).mapM Json.hexValue? with
  | none => none
  | some ds =>
    let u := ds.foldl (fun u d ↦ 16 * u + d) 0
    if ds.length == n && u.isValidChar then some ([Char.ofNat u], cs.drop n) else none

/-- The characters that an escape stands for, from behind its backslash on. At the end of a line of
a longer string it stands for nothing and takes all blanks and line ends with it. -/
def escape (long : Bool) (cs : List Char) : Option (List Char × List Char) :=
  match cs with
  | 'b' :: cs => some (['\x08'], cs)
  | 't' :: cs => some (['\t'], cs)
  | 'n' :: cs => some (['\n'], cs)
  | 'f' :: cs => some (['\x0c'], cs)
  | 'r' :: cs => some (['\r'], cs)
  | '"' :: cs => some (['"'], cs)
  | '\\' :: cs => some (['\\'], cs)
  | 'u' :: cs => hexEscape 4 cs
  | 'U' :: cs => hexEscape 8 cs
  | c :: cs =>
    if long && (isBlank c || c == '\n') then
      match skipBlanks (c :: cs) with
      | [] => some ([], [])
      | d :: ds => if d == '\n' then some ([], skipLines ds) else none
    else none
  | [] => none

/-- The rest of a basic string on one line. -/
def basic : Nat → List Char → Option (List Char × List Char)
  | 0, _ => none
  | n + 1, cs =>
    match cs with
    | [] => none
    | '"' :: cs => some ([], cs)
    | '\\' :: cs => do
      let (found, cs) ← escape false cs
      let (more, cs) ← basic n cs
      return (found ++ more, cs)
    | c :: cs =>
      if isControl c then none
      else (basic n cs).map fun (more, cs) ↦ (c :: more, cs)

/-- The rest of a literal string on one line. -/
def literal (cs : List Char) : Option (List Char × List Char) :=
  let found := cs.takeWhile (· != '\'')
  match cs.drop found.length with
  | _ :: cs => if found.any isControl then none else some (found, cs)
  | [] => none

/-- The rest of a string of several lines in the given quotes. -/
def long (quote : Char) : Nat → List Char → Option (List Char × List Char)
  | 0, _ => none
  | n + 1, cs =>
    match cs with
    | [] => none
    | c :: cs =>
      if c == quote && cs.take 2 == [quote, quote] then
        let behind := cs.drop 2
        let extra := (behind.take 2).takeWhile (· == quote)
        some (extra, behind.drop extra.length)
      else if c == '\\' && quote == '"' then do
        let (found, cs) ← escape true cs
        let (more, cs) ← long quote n cs
        return (found ++ more, cs)
      else if isControl c && c != '\n' then none
      else (long quote n cs).map fun (more, cs) ↦ (c :: more, cs)

/-- A string of several lines without the line end at its front. -/
def longString (quote : Char) (cs : List Char) : Option (List Char × List Char) :=
  let cs := match cs with
    | '\n' :: cs => cs
    | _ => cs
  long quote (cs.length + 1) cs

def shortString? (cs : List Char) : Option (String × List Char) :=
  let found := match cs with
    | '"' :: cs => basic (cs.length + 1) cs
    | '\'' :: cs => literal cs
    | _ => none
  found.map fun (s, cs) ↦ (String.ofList s, cs)

/-- A string in any form. -/
def string? (cs : List Char) : Option (Value × List Char) :=
  let found := match cs with
    | '"' :: '"' :: '"' :: cs => longString '"' cs
    | '\'' :: '\'' :: '\'' :: cs => longString '\'' cs
    | '"' :: cs => basic (cs.length + 1) cs
    | '\'' :: cs => literal cs
    | _ => none
  found.map fun (s, cs) ↦ (.text (String.ofList s), cs)

/-! ## Numbers -/

/-- Digits with single underscores between them, as many as there are, and what is behind. -/
def spacedDigits (isDigit : Char → Bool) : List Char → List Char × List Char
  | [] => ([], [])
  | [c] => if isDigit c then ([c], []) else ([], [c])
  | c :: d :: cs =>
    if !isDigit c then ([], c :: d :: cs)
    else if d == '_' then
      match spacedDigits isDigit cs with
      | ([], _) => ([c], d :: cs)
      | (ds, rest) => (c :: ds, rest)
    else
      let (ds, rest) := spacedDigits isDigit (d :: cs)
      (c :: ds, rest)
  termination_by cs => cs.length

/-- The value of digits of a base. -/
def valueIn (base : Nat) (ds : List Char) : Nat :=
  ds.foldl (fun n d ↦ base * n + (Json.hexValue? d).getD 0) 0

/-- A whole number in the base that a letter behind a zero names. -/
def basedInt? (letter : Char) (cs : List Char) : Option (Value × List Char) :=
  let take (base : Nat) : Option (Value × List Char) :=
    match spacedDigits (fun c ↦ (Json.hexValue? c).any (· < base)) cs with
    | ([], _) => none
    | (ds, rest) => some (.int (valueIn base ds), rest)
  match letter with
  | 'x' => take 16
  | 'o' => take 8
  | 'b' => take 2
  | _ => none

/-- A mark and the digits behind it, if they are there. -/
def tail (marks : List Char) (signed : Bool) (cs : List Char) : List Char × List Char :=
  match cs with
  | [] => ([], cs)
  | c :: more =>
    if !marks.contains c then ([], cs)
    else
      let (sign, body) := match more with
        | '+' :: body => if signed then (['+'], body) else ([], more)
        | '-' :: body => if signed then (['-'], body) else ([], more)
        | _ => ([], more)
      match spacedDigits Char.isDigit body with
      | ([], _) => ([], cs)
      | (ds, rest) => (c :: sign ++ ds, rest)

/-- A number in base ten. It is a whole number without a fraction and an exponent, and must not be
too long then. -/
def decimal? (cs : List Char) : Reading (Value × List Char) :=
  let (negative, body) := Decimal.takeSign cs
  let (whole, rest) := match body with
    | '0' :: rest => (['0'], rest)
    | _ => spacedDigits Char.isDigit body
  if whole.isEmpty then .error .malformed
  else
    let (fraction, rest) := tail ['.'] false rest
    let (exponent, rest) := tail ['e', 'E'] true rest
    if fraction.isEmpty && exponent.isEmpty then
      if Decimal.maxDigits < whole.length then .error (.longNumber whole.length)
      else
        let n : Int := valueIn 10 whole
        .ok (.int (if negative then -n else n), rest)
    else (Reading.of (Decimal.readFloat? (whole ++ fraction ++ exponent))).map fun x ↦
      (.float (if negative then -x else x), rest)

/-- A word for a number without digits, with or without a sign. -/
def namedNumber? (cs : List Char) : Option (Value × List Char) :=
  let (negative, body) := Decimal.takeSign cs
  let value? := match body.take 3 with
    | ['i', 'n', 'f'] => some (if negative then -1.0 / 0.0 else 1.0 / 0.0)
    | ['n', 'a', 'n'] => some (0.0 / 0.0)
    | _ => none
  value?.map fun x ↦ (.float x, body.drop 3)

def number? (cs : List Char) : Reading (Value × List Char) :=
  let based := match cs with
    | '0' :: letter :: rest => basedInt? letter rest
    | _ => none
  match based with
  | some found => .ok found
  | none =>
    match namedNumber? cs with
    | some found => .ok found
    | none => decimal? cs

/-! ## Dates and times -/

/-- The number that exactly so many digits spell, which must be within bounds. -/
def digits? (count least most : Nat) (cs : List Char) : Option (Nat × List Char) :=
  let ds := cs.take count
  let n := valueIn 10 ds
  if ds.length == count && ds.all Char.isDigit && least ≤ n && n ≤ most then
    some (n, cs.drop count)
  else none

/-- A character that must come. -/
def mark? (c : Char) : List Char → Option (List Char)
  | d :: cs => if c == d then some cs else none
  | [] => none

/-- The fraction of a second in millionths; more digits do not count. -/
def fraction (cs : List Char) : Nat × List Char :=
  match cs with
  | '.' :: more =>
    let ds := more.takeWhile Char.isDigit
    if ds.isEmpty then (0, cs)
    else (valueIn 10 ((ds ++ List.replicate 6 '0').take 6), more.drop ds.length)
  | _ => (0, cs)

def time? (cs : List Char) : Option (TimeOfDay × List Char) := do
  let (hour, cs) ← digits? 2 0 23 cs
  let (minute, cs) ← digits? 2 0 59 (← mark? ':' cs)
  let (second, cs) ← digits? 2 0 59 (← mark? ':' cs)
  let (micro, cs) := fraction cs
  return (⟨hour, minute, second, micro⟩, cs)

/-- A distance from the common time zone in minutes, if there is one. -/
def offset (cs : List Char) : Option Int × List Char :=
  match cs with
  | c :: rest =>
    if c == 'Z' || c == 'z' then (some 0, rest)
    else if c == '+' || c == '-' then
      let found : Option (Option Int × List Char) := do
        let (hours, rest) ← digits? 2 0 23 rest
        let (minutes, rest) ← digits? 2 0 59 (← mark? ':' rest)
        let n : Int := 60 * hours + minutes
        return (some (if c == '-' then -n else n), rest)
      found.getD (none, cs)
    else (none, cs)
  | [] => (none, cs)

def monthLength (year month : Nat) : Nat :=
  if month == 2 then
    if year % 4 == 0 && (year % 100 != 0 || year % 400 == 0) then 29 else 28
  else if [4, 6, 9, 11].contains month then 30
  else 31

/-- Whether the calendar has a day. -/
def Day.isReal (d : Day) : Bool :=
  d.year ≠ 0 && d.day ≤ monthLength d.year d.month

/-- A day, which need not be real. -/
def day? (cs : List Char) : Option (Day × List Char) := do
  let (year, cs) ← digits? 4 0 9999 cs
  let (month, cs) ← digits? 2 1 12 (← mark? '-' cs)
  let (day, cs) ← digits? 2 1 31 (← mark? '-' cs)
  return (⟨year, month, day⟩, cs)

/-- A date, with or without a time of day. The outer answer is missing if there is no date, the
inner one if the calendar has no such day. -/
def date? (cs : List Char) : Option (Option (Value × List Char)) := do
  let (day, cs) ← day? cs
  let (moment, cs) := match cs with
    | c :: rest =>
      if c == 'T' || c == 't' || c == ' ' then
        match time? rest with
        | some (time, rest) =>
          let (zone, rest) := offset rest
          (.dayTime day time zone, rest)
        | none => (Moment.day day, cs)
      else (.day day, cs)
    | [] => (.day day, cs)
  return if day.isReal then some (.moment moment, cs) else none

end DiagnosticFeed.Toml
