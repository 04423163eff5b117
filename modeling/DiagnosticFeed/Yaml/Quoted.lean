import DiagnosticFeed.Text.Utf8
import DiagnosticFeed.Yaml.Cursor
import DiagnosticFeed.Yaml.Fault

/-!
# Scalars over several lines

The texts of plain, quoted and block scalars. Within plain and quoted scalars a single line end
reads as a blank and each further one as a line end; a literal block keeps its lines, and a folded
one joins them where both start with a word.

Each loop takes at least one character a round, so the number of characters bounds its rounds.
-/

namespace DiagnosticFeed.Yaml

/-- What line ends between words read as: the first one, unless it is a mere line feed, and the
others, or a blank if there are none. -/
def foldBreaks (first : Char) (others : List Char) : List Char :=
  if first != '\n' then first :: others
  else if others.isEmpty then [' ']
  else others

/-! ## Plain scalars -/

/-- The word of a plain scalar at the start of a text. -/
def plainWord (inFlow : Bool) : List Char → List Char
  | [] => []
  | x :: xs =>
    let next := xs.headD nul
    if isGap x then []
    else if x == ':' && (isGap next || (inFlow && [',', '[', ']', '\x7b', '\x7d'].contains next))
    then []
    else if inFlow && [',', '?', '[', ']', '\x7b', '\x7d'].contains x then []
    else x :: plainWord inFlow xs

/-- Line ends and blanks after a line end, up to a word; none if a document ends before. -/
def plainBreaks : Nat → List Char → Cursor → Option (List Char) × Cursor
  | 0, found, c => (some found, c)
  | n + 1, found, c =>
    if c.isDocumentMarker then (none, c)
    else
      let c := c.skipWhile (· == ' ')
      match c.lineBreak? with
      | some (b, c) => plainBreaks n (found ++ [b]) c
      | none => (some found, c)

/-- What stands between two words of a plain scalar. -/
structure Space where
  text : List Char
  /-- Whether a line ended. -/
  broken : Bool
  cursor : Cursor

/-- What stands behind a word of a plain scalar; nothing, if a document ends there. -/
def plainSpace (c : Cursor) : Space :=
  let (blanks, c) := c.takeWhile (· == ' ')
  match c.lineBreak? with
  | none => ⟨blanks, false, c⟩
  | some (b, c) =>
    match plainBreaks c.rest.length [] c with
    | (some others, c) => ⟨foldBreaks b others, true, c⟩
    | (none, c) => ⟨[], true, c⟩

/-- A plain scalar that was read. -/
structure Plain where
  text : List Char
  /-- Whether its last word was followed by a line end. -/
  broken : Bool
  cursor : Cursor

/-- The words of a plain scalar, each after what stands before it. -/
def plainWords (inFlow : Bool) (indent : Int) : Nat → Plain → List Char → Plain
  | 0, found, _ => found
  | n + 1, found, space =>
    let c := found.cursor
    let word := plainWord inFlow c.rest
    if c.peek == '#' || word.isEmpty then found
    else
      let s := plainSpace (c.skip word.length)
      let found : Plain := ⟨found.text ++ space ++ word, s.broken, s.cursor⟩
      if s.text.isEmpty || s.cursor.peek == '#' || (!inFlow && (s.cursor.column : Int) < indent)
      then found
      else plainWords inFlow indent n found s.text

/-- The plain scalar at a place; its lines have at least the given column. -/
def plainScalar (inFlow : Bool) (indent : Int) (c : Cursor) : Plain :=
  plainWords inFlow indent (c.rest.length + 1) ⟨[], false, c⟩ []

/-! ## Quoted scalars -/

/-- The character that an escape of one letter stands for. -/
def simpleEscape? (x : Char) : Option Char :=
  [('0', 0), ('a', 7), ('b', 8), ('t', 9), ('\t', 9), ('n', 10), ('v', 11), ('f', 12), ('r', 13),
    ('e', 27), (' ', 32), ('"', 34), ('\\', 92), ('/', 47), ('N', 0x85), ('_', 0xA0),
    ('L', 0x2028), ('P', 0x2029)].findSome? fun (k, n) ↦
      if k == x then some (Char.ofNat n) else none

/-- How many hexadecimal digits an escape has. -/
def escapeLength? : Char → Option Nat
  | 'x' => some 2
  | 'u' => some 4
  | 'U' => some 8
  | _ => none

def hexDigit? (x : Char) : Option Nat :=
  if x.isDigit then some (x.toNat - 48)
  else if 'a' ≤ x && x ≤ 'f' then some (x.toNat - 87)
  else if 'A' ≤ x && x ≤ 'F' then some (x.toNat - 55)
  else none

/-- The largest code of a character that is looked at. -/
def largestCode : Nat := 0x7FFFFFFF

/-- The character of a code. No text holds a surrogate, so the replacement character stands for
each. -/
def charOf (code : Nat) : Except Fault Char :=
  if code < 0x110000 then .ok (if code.isValidChar then Char.ofNat code else Text.replacement)
  else if code ≤ largestCode then .error (.noValue .beyondLastCharacter)
  else .error (.noValue .hugeCharacter)

/-- The character that so many hexadecimal digits at the front of a text name. -/
def hexChar (n : Nat) (cs : List Char) : Except Fault Char :=
  match (cs.take n).mapM hexDigit? with
  | some ds =>
    if ds.length = n then charOf (ds.foldl (fun m d ↦ 16 * m + d) 0) else .error .badEscape
  | none => .error .badEscape

/-- Line ends and blanks inside quotes, up to a word. -/
def quotedBreaks : Nat → List Char → Cursor → Except Fault (List Char × Cursor)
  | 0, found, c => .ok (found, c)
  | n + 1, found, c =>
    if c.isDocumentMarker then .error .markerInQuote
    else
      let c := c.skipWhile isWhite
      match c.lineBreak? with
      | some (b, c) => quotedBreaks n (found ++ [b]) c
      | none => .ok (found, c)

/-- What an escape stands for, and the place behind it; the backslash has been read. -/
def readEscape (c : Cursor) : Except Fault (List Char × Cursor) :=
  match simpleEscape? c.peek, escapeLength? c.peek with
  | some x, _ => .ok ([x], c.next)
  | none, some n => (hexChar n c.next.rest).map fun x ↦ ([x], c.skip (n + 1))
  | none, none =>
    match c.lineBreak? with
    | some (_, c) => quotedBreaks (c.rest.length + 1) [] c
    | none => .error .badEscape

/-- What blanks and line ends inside quotes read as, and the place behind them. -/
def quotedSpace (c : Cursor) : Except Fault (List Char × Cursor) :=
  let (blanks, c) := c.takeWhile isWhite
  if c.peek == nul then .error .quoteOpen
  else
    match c.lineBreak? with
    | none => .ok (blanks, c)
    | some (b, c) => do
      let (others, c) ← quotedBreaks (c.rest.length + 1) [] c
      return (foldBreaks b others, c)

/-- The text up to the closing quote, and the place behind it. -/
def quotedFrom (double : Bool) : Nat → List Char → Cursor → Except Fault (List Char × Cursor)
  | 0, _, _ => .error .quoteOpen
  | n + 1, found, c => do
    let x := c.peek
    if isGap x then
      let (s, c) ← quotedSpace c
      quotedFrom double n (found ++ s) c
    else if !double && x == '\'' && c.peekAt 1 == '\'' then
      quotedFrom double n (found ++ ['\'']) (c.skip 2)
    else if x == (if double then '"' else '\'') then return (found, c.next)
    else if double && x == '\\' then
      let (s, c) ← readEscape c.next
      quotedFrom double n (found ++ s) c
    else
      let (word, c) := c.takeWhile fun y ↦
        !(isGap y || y == '"' || y == '\'' || y == '\\')
      if word.isEmpty then quotedFrom double n (found ++ [x]) c.next
      else quotedFrom double n (found ++ word) c

/-- The quoted scalar at a place. -/
def quotedScalar (c : Cursor) : Except Fault (List Char × Cursor) :=
  quotedFrom (c.peek == '"') (c.rest.length + 1) [] c.next

/-! ## Block scalars -/

/-- What becomes of the line ends at the end of a block. -/
inductive Chomp where
  | strip
  | clip
  | keep
  deriving DecidableEq

/-- The chomping that a character asks for. -/
def chomp? : Char → Option Chomp
  | '+' => some .keep
  | '-' => some .strip
  | _ => none

/-- The indent that a character asks for. -/
def increment? (x : Char) : Except Fault (Option Nat) :=
  if x == '0' then .error .badBlockHeader
  else .ok (if x.isDigit then some (x.toNat - 48) else none)

/-- The header of a block: chomping and indent, in either order. -/
def blockHeader (c : Cursor) : Except Fault (Chomp × Option Nat × Cursor) := do
  let (chomp, increment, c) ← (match chomp? c.peek with
    | some k => do
      let c := c.next
      match ← increment? c.peek with
      | some n => pure (k, some n, c.next)
      | none => pure (k, none, c)
    | none => do
      match ← increment? c.peek with
      | some n =>
        let c := c.next
        match chomp? c.peek with
        | some k => pure (k, some n, c.next)
        | none => pure (Chomp.clip, some n, c)
      | none => pure (Chomp.clip, none, c) : Except Fault (Chomp × Option Nat × Cursor))
  if c.peek != ' ' && !isEnd c.peek then throw .badBlockHeader
  let c := (c.skipWhile (· == ' ')).skipComment
  if !isEnd c.peek then throw .badBlockHeader
  return (chomp, increment, (c.lineBreak?.map (·.2)).getD c)

/-- The place after at most so many blanks as lead to a column. -/
def skipIndent (indent : Nat) : Nat → Cursor → Cursor
  | 0, c => c
  | n + 1, c => if c.column < indent && c.peek == ' ' then skipIndent indent n c.next else c

/-- The empty lines before a block whose indent is not known: their line ends, and the greatest
column that blanks reach. -/
def leadingLines : Nat → List Char → Nat → Cursor → List Char × Nat × Cursor
  | 0, found, most, c => (found, most, c)
  | n + 1, found, most, c =>
    if c.peek == ' ' then
      let c := c.next
      leadingLines n found (max most c.column) c
    else
      match c.lineBreak? with
      | some (b, c) => leadingLines n (found ++ [b]) most c
      | none => (found, most, c)

/-- The empty lines inside a block: their line ends. -/
def emptyLines (indent : Nat) : Nat → List Char → Cursor → List Char × Cursor
  | 0, found, c => (found, c)
  | n + 1, found, c =>
    let c := skipIndent indent indent c
    match c.lineBreak? with
    | some (b, c) => emptyLines indent n (found ++ [b]) c
    | none => (found, c)

/-- The lines of a block: its text so far, the last line end, and the line ends after that. -/
def blockLines (folded : Bool) (indent : Nat) :
    Nat → List Char → List Char → Cursor → List Char × List Char × List Char × Cursor
  | 0, found, breaks, c => (found, [], breaks, c)
  | n + 1, found, breaks, c =>
    let startsWord := !isWhite c.peek
    let (line, c) := c.takeWhile (!isEnd ·)
    let (last, c) := match c.lineBreak? with
      | some (b, c) => ([b], c)
      | none => ([], c)
    let found := found ++ breaks ++ line
    let (breaks, c) := emptyLines indent (c.rest.length + 1) [] c
    if c.column == indent && c.peek != nul then
      let joint :=
        if folded && last == ['\n'] && startsWord && !isWhite c.peek then
          if breaks.isEmpty then [' '] else []
        else last
      blockLines folded indent n (found ++ joint) breaks c
    else (found, last, breaks, c)

/-- The block scalar at a place, within collections of the given indent. -/
def blockScalar (outer : Int) (c : Cursor) : Except Fault (List Char × Cursor) := do
  let folded := c.peek == '>'
  let (chomp, increment, c) ← blockHeader c.next
  let least := max 1 (outer + 1).toNat
  let n := c.rest.length + 1
  let (breaks, indent, c) : List Char × Nat × Cursor := match increment with
    | none =>
      let (breaks, most, c) := leadingLines n [] 0 c
      (breaks, max least most, c)
    | some k =>
      let indent := least + k - 1
      let (breaks, c) := emptyLines indent n [] c
      (breaks, indent, c)
  let (text, last, breaks, c) :=
    if c.column == indent && c.peek != nul then blockLines folded indent n [] breaks c
    else ([], [], breaks, c)
  let ending := match chomp with
    | .strip => []
    | .clip => last
    | .keep => last ++ breaks
  return (text ++ ending, c)

end DiagnosticFeed.Yaml
