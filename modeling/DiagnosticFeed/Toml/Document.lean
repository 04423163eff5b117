import DiagnosticFeed.Toml.Scalar

/-!
# TOML documents

A document is a list of lines: entries, and headers that say which table the entries below them go
to. Nothing can be said twice. To that end two sets of paths are kept: those that no header may open
and no dotted key may enter any more, and those whose value was written out whole, below which
nothing can be added.

Dotted keys close the tables they pass through only with the next header, so that the entries of one
table can share them.
-/

namespace DiagnosticFeed.Toml

/-- The characters of a key without quotes. -/
def isKeyChar (c : Char) : Bool :=
  c.isAlphanum || c == '-' || c == '_'

def keyPart? (cs : List Char) : Option (String × List Char) :=
  let bare := cs.takeWhile isKeyChar
  if bare.isEmpty then shortString? cs else some (String.ofList bare, cs.drop bare.length)

/-- A key of one or more parts with points between them, and the blanks behind it. -/
def key? : Nat → List Char → Option (Path × List Char)
  | 0, _ => none
  | n + 1, cs => do
    let (part, cs) ← keyPart? cs
    match skipBlanks cs with
    | '.' :: cs =>
      let (parts, cs) ← key? n (skipBlanks cs)
      return (part :: parts, cs)
    | cs => return ([part], cs)

/-- The text behind a comment, if one starts here. -/
def comment? : List Char → Option (List Char)
  | '#' :: cs =>
    let found := cs.takeWhile (· != '\n')
    if found.any isControl then none else some (cs.drop found.length)
  | cs => some cs

/-- The text behind blanks, line ends and comments. -/
def skipFiller : Nat → List Char → Option (List Char)
  | 0, cs => some cs
  | n + 1, cs => do
    let cs := skipLines cs
    let behind ← comment? cs
    if behind.length == cs.length then return cs else skipFiller n behind

/-- Whether a path leads to, or below, one of some paths. -/
def isBelow (paths : List Path) (p : Path) : Bool :=
  paths.any (·.isPrefixOf p)

/-- How much room there is for values inside each other. -/
def maxRoom : Nat := 984

/-- How much room an array takes. -/
def arrayRoom : Nat := 2

/-- How much room a table on one line takes. -/
def tableRoom : Nat := 3

mutual

/-- A value for which there is some room. -/
def value? (room : Nat) : Nat → List Char → Reading (Value × List Char)
  | 0, _ => .error .malformed
  | n + 1, cs =>
    match cs with
    | '"' :: _ | '\'' :: _ => .of (string? cs)
    | 't' :: 'r' :: 'u' :: 'e' :: rest => .ok (.bool true, rest)
    | 'f' :: 'a' :: 'l' :: 's' :: 'e' :: rest => .ok (.bool false, rest)
    | '[' :: rest => do
      if room < arrayRoom then throw .tooDeep
      match ← Reading.of (skipFiller rest.length rest) with
      | ']' :: rest => return (.arr [], rest)
      | rest => items? (room - arrayRoom) n [] rest
    | '\x7b' :: rest => do
      if room < tableRoom then throw .tooDeep
      match skipBlanks rest with
      | '\x7d' :: rest => return (.table [], rest)
      | rest => entries? (room - tableRoom) n [] [] rest
    | _ =>
      match date? cs with
      | some found => .of found
      | none =>
        match time? cs with
        | some (t, rest) => .ok (.moment (.time t), rest)
        | none => number? cs

def items? (room : Nat) : Nat → List Value → List Char → Reading (Value × List Char)
  | 0, _, _ => .error .malformed
  | n + 1, found, cs => do
    let (v, cs) ← value? room n cs
    let found := found ++ [v]
    match ← Reading.of (skipFiller cs.length cs) with
    | ']' :: cs => return (.arr found, cs)
    | ',' :: cs =>
      match ← Reading.of (skipFiller cs.length cs) with
      | ']' :: cs => return (.arr found, cs)
      | cs => items? room n found cs
    | _ => .error .malformed

def entries? (room : Nat) :
    Nat → List Path → Table → List Char → Reading (Value × List Char)
  | 0, _, _, _ => .error .malformed
  | n + 1, closed, t, cs => do
    let (path, v, cs) ← entry? room n cs
    if isBelow closed path then throw .malformed
    let stem := path.getLastD ""
    let t ← Reading.of (alter (putNew stem v) path.dropLast t)
    match skipBlanks cs with
    | '\x7d' :: cs => return (.table t, cs)
    | ',' :: cs =>
      entries? room n (if v.isCollection then path :: closed else closed) t (skipBlanks cs)
    | _ => .error .malformed

def entry? (room : Nat) : Nat → List Char → Reading (Path × Value × List Char)
  | 0, _ => .error .malformed
  | n + 1, cs => do
    let (path, cs) ← Reading.of (key? cs.length cs)
    let cs ← Reading.of (mark? '=' cs)
    let (v, cs) ← value? room n (skipBlanks cs)
    return (path, v, cs)

end

/-- What has been read of a document. -/
structure State where
  root : Table := []
  /-- The table that entries go to. -/
  header : Path := []
  /-- The tables that are complete. -/
  opened : List Path := []
  /-- The tables that are complete from the next header on. -/
  passed : List Path := []
  /-- The values written out whole. -/
  closed : List Path := []

namespace State

/-- A header: from here on the passed tables are complete. -/
def turn (s : State) : State :=
  { s with opened := s.passed ++ s.opened, passed := [] }

/-- The header of a table. -/
def openTable (s : State) (p : Path) : Option State := do
  if s.opened.contains p || isBelow s.closed p then none
  let root ← alter some p s.root
  return { s with root := root, header := p, opened := p :: s.opened }

/-- The header of one more table in an array of tables. All below it starts afresh. -/
def appendItem (s : State) (p : Path) : Option State := do
  if isBelow s.closed p then none
  let isElsewhere (q : Path) : Bool := !p.isPrefixOf q
  let root ← alter (appendTable (p.getLastD "")) p.dropLast s.root
  return { s with
    root := root
    header := p
    opened := p :: s.opened.filter isElsewhere
    closed := s.closed.filter isElsewhere }

/-- The paths of the tables that a dotted key passes through. -/
def stops (header path : Path) : List Path :=
  (List.range (path.length - 1)).map fun i ↦ header ++ path.take (i + 1)

/-- An entry of the present table. -/
def put (s : State) (path : Path) (v : Value) : Option State := do
  let here := stops s.header path
  if here.any s.opened.contains then none
  let parent := s.header ++ path.dropLast
  if isBelow s.closed parent then none
  let root ← alter (putNew (path.getLastD "") v) parent s.root
  return { s with
    root := root
    passed := here ++ s.passed
    closed := if v.isCollection then (s.header ++ path) :: s.closed else s.closed }

/-- The header of a table or of one more table in an array of tables, without its first bracket. -/
def header? (s : State) : List Char → Option (State × List Char)
  | '[' :: rest => do
    let rest := skipBlanks rest
    let (p, rest) ← key? rest.length rest
    let s ← s.turn.appendItem p
    return (s, ← (mark? ']' rest).bind (mark? ']'))
  | rest => do
    let rest := skipBlanks rest
    let (p, rest) ← key? rest.length rest
    let s ← s.turn.openTable p
    return (s, ← mark? ']' rest)

/-- A statement that starts here, and the text behind it. -/
def statement (s : State) (cs : List Char) : Reading (State × List Char) :=
  match cs with
  | '[' :: rest => .of (s.header? rest)
  | '#' :: _ => .ok (s, cs)
  | _ => do
    let (path, v, rest) ← entry? maxRoom (2 * cs.length) cs
    return (← Reading.of (s.put path v), rest)

/-- Reads lines to the end of the text; each takes a character at least. -/
def lines : Nat → State → List Char → Reading State
  | 0, s, _ => .ok s
  | n + 1, s, cs =>
    match skipBlanks cs with
    | [] => .ok s
    | '\n' :: cs => lines n s cs
    | cs => do
      let (s, cs) ← s.statement cs
      match ← Reading.of (comment? (skipBlanks cs)) with
      | [] => return s
      | '\n' :: cs => lines n s cs
      | _ => .error .malformed

end State

/-- Line ends of two characters as one. -/
def joinLineEnds : List Char → List Char
  | '\r' :: '\n' :: cs => '\n' :: joinLineEnds cs
  | c :: cs => c :: joinLineEnds cs
  | [] => []

/-- The table that a text holds. -/
def read (s : String) : Reading Table :=
  let cs := joinLineEnds s.toList
  (State.lines (cs.length + 1) {} cs).map (·.root)

end DiagnosticFeed.Toml
