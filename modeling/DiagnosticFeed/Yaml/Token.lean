import DiagnosticFeed.Keyed
import DiagnosticFeed.Text.Utf8
import DiagnosticFeed.Yaml.Quoted

/-!
# YAML tokens

A text as tokens. Indentation counts in block style, so the start and the end of a block collection
are tokens of their own, although no characters stand for them. A key that is not marked as one is
known only by the colon behind it; until then its place is remembered, and the tokens for the key
and for the mapping that it may start are put in there.

A fault ends the tokens and is the last of them, so that a reader meets it where it stands. What may
have been a key by then is not told apart, and the fault stands in its place.
-/

namespace DiagnosticFeed.Yaml

inductive Directive where
  | version (major : Nat)
  | tagHandle (handle meaning : String)
  | other
  deriving DecidableEq

inductive Token where
  | directive (d : Directive)
  | documentStart
  | documentEnd
  | blockSequenceStart
  | blockMappingStart
  | blockEnd
  | flowSequenceStart
  | flowSequenceEnd
  | flowMappingStart
  | flowMappingEnd
  | flowEntry
  | blockEntry
  | key
  | value
  | alias_ (name : String)
  | anchor (name : String)
  | tag (handle : Option String) (suffix : String)
  | scalar (text : String) (plain : Bool)
  | streamEnd
  /-- The text goes on, but no token can be read. -/
  | broken (why : Fault)
  deriving DecidableEq, Inhabited

/-- A place where a key may have started. -/
structure Candidate where
  /-- How many tokens came before. -/
  position : Nat
  /-- Whether the line makes no sense unless it is a key. -/
  required : Bool
  place : Cursor

/-- The state of reading tokens. -/
structure Lexer where
  cursor : Cursor
  /-- The tokens so far, the latest first, … -/
  latest : List Token := []
  /-- … and how many they are. -/
  count : Nat := 0
  /-- How many flow collections are open. -/
  flow : Nat := 0
  /-- The column of the innermost block collection, -1 outside of all. -/
  indent : Int := -1
  /-- The columns of those around it. -/
  outer : List Int := []
  /-- Whether a key may start here. -/
  keyAllowed : Bool := true
  candidates : Keyed Nat Candidate := []
  done : Bool := false

/-- The characters of names in anchors and handles. -/
def isNameChar (c : Char) : Bool :=
  c.isAlphanum || c == '-' || c == '_'

namespace Lexer

def push (l : Lexer) (t : Token) : Lexer :=
  { l with latest := t :: l.latest, count := l.count + 1 }

/-- Puts a token in behind so many others. -/
def putIn (l : Lexer) (position : Nat) (t : Token) : Lexer :=
  { l with latest := l.latest.insertIdx (l.count - position) t, count := l.count + 1 }

def tokens (l : Lexer) : List Token :=
  l.latest.reverse

/-- Adds a token of some characters. -/
def take (l : Lexer) (n : Nat) (t : Token) : Lexer :=
  { l.push t with cursor := l.cursor.skip n }

/-- Whether no flow collection is open. -/
def inBlock (l : Lexer) : Bool :=
  l.flow == 0

/-! ## Places where keys may have started -/

/-- Whether no key can have started at a place any more: it is on another line, or too far back. -/
def isStale (l : Lexer) (k : Candidate) : Bool :=
  k.place.line != l.cursor.line || l.cursor.index - k.place.index > 1024

/-- Forgets the places that no key can have started at any more. -/
def dropStale (l : Lexer) : Except Fault Lexer :=
  if l.candidates.any fun e ↦ l.isStale e.2 && e.2.required then .error .colonMissing
  else .ok { l with candidates := l.candidates.filter fun e ↦ !l.isStale e.2 }

/-- The tokens before the first place where a key may have started. -/
def settled (l : Lexer) : List Token :=
  let places := (l.candidates.filter fun e ↦ !l.isStale e.2).map (·.2.position)
  l.tokens.take (places.min?.getD l.count)

/-- Forgets the place of the present level. -/
def dropCandidate (l : Lexer) : Except Fault Lexer :=
  match l.candidates.get? l.flow with
  | none => .ok l
  | some k =>
    if k.required then .error .colonMissing
    else .ok { l with candidates := l.candidates.erase l.flow }

/-- Remembers that a key may start here. -/
def saveCandidate (l : Lexer) : Except Fault Lexer :=
  if l.keyAllowed then do
    let required := l.inBlock && l.indent == (l.cursor.column : Int)
    let l ← l.dropCandidate
    let k : Candidate := ⟨l.count, required, l.cursor⟩
    return { l with candidates := l.candidates.set l.flow k }
  else .ok l

/-! ## Indentation -/

/-- Ends the block collections that lie further to the right than a column. -/
def unwind (column : Int) : List Int → Lexer → Lexer
  | [], l => l
  | i :: is, l =>
    if column < l.indent then
      unwind column is { l.push .blockEnd with indent := i, outer := is }
    else l

/-- Ends block collections in block style; flow style knows no indentation. -/
def unwindTo (l : Lexer) (column : Int) : Lexer :=
  if l.inBlock then unwind column l.outer l else l

/-- Starts a block collection at a column, unless one is open there. -/
def indentTo (l : Lexer) (column : Nat) (t : Token) (position : Nat) : Lexer :=
  if l.indent < (column : Int) then
    { l.putIn position t with indent := column, outer := l.indent :: l.outer }
  else l

/-! ## Tokens -/

/-- The place of the next token. -/
def skipToToken : Nat → Lexer → Lexer
  | 0, l => l
  | n + 1, l =>
    let c := (l.cursor.skipWhile (· == ' ')).skipComment
    match c.lineBreak? with
    | some (_, c) =>
      skipToToken n { l with cursor := c, keyAllowed := l.keyAllowed || l.inBlock }
    | none => { l with cursor := c }

/-- The end of the text. -/
def finish (l : Lexer) : Except Fault Lexer := do
  let l ← (l.unwindTo (-1)).dropCandidate
  return { l.push .streamEnd with keyAllowed := false, candidates := [], done := true }

/-- A name made of letters, digits, hyphens and underscores. -/
def readName? (c : Cursor) : Option (String × Cursor) :=
  let (name, c) := c.takeWhile isNameChar
  if name.isEmpty then none else some (String.ofList name, c)

/-- The place at the end of a line that holds no more than a comment. -/
def endLine (c : Cursor) (f : Fault) : Except Fault Cursor :=
  let c := (c.skipWhile (· == ' ')).skipComment
  if isEnd c.peek then .ok ((c.lineBreak?.map (·.2)).getD c) else .error f

def isTagChar (c : Char) : Bool :=
  c.isAlphanum || ("-;/?:@&=+$,_.!~*'()[]").toList.contains c

/-- The bytes of escapes in a tag. -/
def tagEscapes : Nat → List Char → List Nat → Except Fault (List Nat × List Char)
  | 0, cs, bytes => .ok (bytes, cs)
  | n + 1, cs, bytes =>
    match cs with
    | '%' :: a :: b :: rest =>
      match hexDigit? a, hexDigit? b with
      | some x, some y => tagEscapes n rest (bytes ++ [16 * x + y])
      | _, _ => .error .badTag
    | '%' :: _ => .error .badTag
    | cs => .ok (bytes, cs)

/-- The text of a tag. Escapes in a row stand for the bytes of characters. -/
def tagText : Nat → List Char → Cursor → Except Fault (List Char × Cursor)
  | 0, found, c => .ok (found, c)
  | n + 1, found, c => do
    if isTagChar c.peek then tagText n (found ++ [c.peek]) c.next
    else if c.peek == '%' then
      let (bytes, rest) ← tagEscapes c.rest.length c.rest []
      let some s := Text.decode? (bytes.map Nat.toUInt8) | throw .badTag
      tagText n (found ++ s.toList) (c.skip (c.rest.length - rest.length))
    else if found.isEmpty then throw .badTag
    else return (found, c)

/-- The handle of a tag: an exclamation mark, alone or before and behind a name. -/
def tagHandle (c : Cursor) : Except Fault (String × Cursor) :=
  if c.peek != '!' then .error .badTag
  else
    let (name, d) := c.next.takeWhile isNameChar
    if c.peekAt 1 == ' ' then .ok ("!", c.next)
    else if d.peek == '!' then .ok (String.ofList ('!' :: name ++ ['!']), d.next)
    else .error .badTag

def directiveNumber (c : Cursor) : Except Fault (Nat × Cursor) :=
  let (ds, c) := c.takeWhile Char.isDigit
  if ds.isEmpty then .error .badDirective
  else if Decimal.maxDigits < ds.length then .error (.noValue (.longNumeral ds.length))
  else .ok (ds.foldl (fun n d ↦ 10 * n + (d.toNat - 48)) 0, c)

/-- What follows the name of a directive. -/
def directiveValue (name : String) (c : Cursor) : Except Fault (Directive × Cursor) := do
  match name with
  | "YAML" =>
    let (major, c) ← directiveNumber (c.skipWhile (· == ' '))
    if c.peek != '.' then throw .badDirective
    let (_, c) ← directiveNumber c.next
    if c.peek != ' ' && !isEnd c.peek then throw .badDirective
    return (.version major, c)
  | "TAG" =>
    let (handle, c) ← tagHandle (c.skipWhile (· == ' '))
    if c.peek != ' ' then throw .badDirective
    let c := c.skipWhile (· == ' ')
    let (text, c) ← tagText (c.rest.length + 1) [] c
    if c.peek != ' ' && !isEnd c.peek then throw .badDirective
    return (.tagHandle handle (String.ofList text), c)
  | _ => return (.other, c.skipWhile (!isEnd ·))

def directive (l : Lexer) : Except Fault Lexer := do
  let l ← (l.unwindTo (-1)).dropCandidate
  let some (name, c) := readName? l.cursor.next | throw .badDirective
  if c.peek != ' ' && !isEnd c.peek then throw .badDirective
  let (d, c) ← directiveValue name c
  let c ← endLine c .badDirective
  return { l.push (.directive d) with cursor := c, keyAllowed := false }

/-- The start or the end of a document. -/
def documentMarker (l : Lexer) (t : Token) : Except Fault Lexer := do
  let l ← (l.unwindTo (-1)).dropCandidate
  return { l.take 3 t with keyAllowed := false }

def openFlow (l : Lexer) (t : Token) : Except Fault Lexer := do
  let l ← l.saveCandidate
  return { l.take 1 t with flow := l.flow + 1, keyAllowed := true }

def closeFlow (l : Lexer) (t : Token) : Except Fault Lexer := do
  let l ← l.dropCandidate
  return { l.take 1 t with flow := l.flow - 1, keyAllowed := false }

/-- A comma between the entries of a flow collection. -/
def flowEntry (l : Lexer) : Except Fault Lexer := do
  let l ← { l with keyAllowed := true }.dropCandidate
  return l.take 1 .flowEntry

def blockEntry (l : Lexer) : Except Fault Lexer := do
  if l.inBlock && !l.keyAllowed then throw .entryMisplaced
  let l := if l.inBlock then l.indentTo l.cursor.column .blockSequenceStart l.count else l
  let l ← { l with keyAllowed := true }.dropCandidate
  return l.take 1 .blockEntry

/-- A key that is marked as one. -/
def explicitKey (l : Lexer) : Except Fault Lexer := do
  if l.inBlock && !l.keyAllowed then throw .keyMisplaced
  let l := if l.inBlock then l.indentTo l.cursor.column .blockMappingStart l.count else l
  let l ← { l with keyAllowed := l.inBlock }.dropCandidate
  return l.take 1 .key

/-- A value. What may have been a key before it now is one. -/
def valueMark (l : Lexer) : Except Fault Lexer := do
  match l.candidates.get? l.flow with
  | some k =>
    let l := { l.putIn k.position .key with candidates := l.candidates.erase l.flow }
    let l := if l.inBlock then l.indentTo k.place.column .blockMappingStart k.position else l
    return { l.take 1 .value with keyAllowed := false }
  | none =>
    if l.inBlock && !l.keyAllowed then throw .valueMisplaced
    let l := if l.inBlock then l.indentTo l.cursor.column .blockMappingStart l.count else l
    let l ← { l with keyAllowed := l.inBlock }.dropCandidate
    return l.take 1 .value

/-- Whether a character may stand right behind the name of an anchor or alias. -/
def mayFollowName (c : Char) : Bool :=
  isGap c || ['?', ':', ',', ']', '\x7d', '%', '@', '\x60'].contains c

def anchorName (l : Lexer) (t : String → Token) : Except Fault Lexer := do
  let l ← l.saveCandidate
  let some (name, c) := readName? l.cursor.next | throw .badAnchor
  if !mayFollowName c.peek then throw .badAnchor
  return { l.push (t name) with cursor := c, keyAllowed := false }

def tagMark (l : Lexer) : Except Fault Lexer := do
  let l ← l.saveCandidate
  let c := l.cursor
  let x := c.peekAt 1
  let (handle, suffix, c) ← (do
    if x == '<' then
      let c := c.skip 2
      let (text, c) ← tagText (c.rest.length + 1) [] c
      if c.peek != '>' then throw .badTag
      return (none, String.ofList text, c.next)
    else if isGap x then return (none, "!", c.next)
    else
      let word := c.next.rest.takeWhile fun y ↦ y != ' ' && !isEnd y
      let (handle, c) ← if word.contains '!' then tagHandle c else pure ("!", c.next)
      let (text, c) ← tagText (c.rest.length + 1) [] c
      return (some handle, String.ofList text, c)
    : Except Fault (Option String × String × Cursor))
  if c.peek != ' ' && !isEnd c.peek then throw .badTag
  return { l.push (.tag handle suffix) with cursor := c, keyAllowed := false }

def block (l : Lexer) : Except Fault Lexer := do
  let l ← { l with keyAllowed := true }.dropCandidate
  let (text, c) ← blockScalar l.indent l.cursor
  return { l.push (.scalar (String.ofList text) false) with cursor := c }

def quoted (l : Lexer) : Except Fault Lexer := do
  let l ← l.saveCandidate
  let (text, c) ← quotedScalar l.cursor
  return { l.push (.scalar (String.ofList text) false) with cursor := c, keyAllowed := false }

/-- A plain scalar. -/
def plain (l : Lexer) : Except Fault Lexer := do
  let l ← l.saveCandidate
  let p := plainScalar (!l.inBlock) (l.indent + 1) l.cursor
  return { l.push (.scalar (String.ofList p.text) true) with
    cursor := p.cursor, keyAllowed := p.broken }

/-- Whether a plain scalar can start at a place. -/
def startsPlain (l : Lexer) : Bool :=
  let x := l.cursor.peek
  (!isGap x && !("-?:,[]\x7b\x7d#&*!|>'\"%@\x60").toList.contains x)
    || (!isGap (l.cursor.peekAt 1) && (x == '-' || (l.inBlock && (x == '?' || x == ':'))))

/-- Reads the next token; a number that is not below that of the characters left bounds the lines
that are passed over before it. -/
def fetch (bound : Nat) (l : Lexer) : Except Fault Lexer := do
  let l ← (skipToToken bound l).dropStale
  let l := l.unwindTo l.cursor.column
  let c := l.cursor
  let x := c.peek
  let gapNext := isGap (c.peekAt 1)
  if x == nul then l.finish
  else if x == '%' && c.column == 0 then l.directive
  else if c.column == 0 && c.isMarker '-' then l.documentMarker .documentStart
  else if c.column == 0 && c.isMarker '.' then l.documentMarker .documentEnd
  else if x == '[' then l.openFlow .flowSequenceStart
  else if x == '\x7b' then l.openFlow .flowMappingStart
  else if x == ']' then l.closeFlow .flowSequenceEnd
  else if x == '\x7d' then l.closeFlow .flowMappingEnd
  else if x == ',' then l.flowEntry
  else if x == '-' && gapNext then l.blockEntry
  else if x == '?' && (!l.inBlock || gapNext) then l.explicitKey
  else if x == ':' && (!l.inBlock || gapNext) then l.valueMark
  else if x == '*' then l.anchorName .alias_
  else if x == '&' then l.anchorName .anchor
  else if x == '!' then l.tagMark
  else if (x == '|' || x == '>') && l.inBlock then l.block
  else if x == '\'' || x == '"' then l.quoted
  else if l.startsPlain then l.plain
  else throw .strayCharacter

/-- Reads tokens to the end of the text or to a fault; each one takes at least a character. -/
def run : Nat → Lexer → List Token
  | 0, l => l.tokens
  | n + 1, l =>
    if l.done then l.tokens
    else
      match l.fetch (n + 1) with
      | .ok l => run n l
      | .error why => l.settled ++ [.broken why]

end Lexer

/-- Whether a text may hold a character. -/
def isAllowed (c : Char) : Bool :=
  let n := c.toNat
  n == 9 || n == 10 || n == 13 || (0x20 ≤ n && n ≤ 0x7E) || n == 0x85
    || (0xA0 ≤ n && n ≤ 0xD7FF) || (0xE000 ≤ n && n ≤ 0xFFFD) || 0x10000 ≤ n

def tokens (cs : List Char) : Except Fault (List Token) :=
  if !cs.all isAllowed then .error .unprintable
  else
    let cs := if cs.head? == some byteOrderMark then cs.drop 1 else cs
    .ok (Lexer.run (cs.length + 2) { cursor := { rest := cs } })

end DiagnosticFeed.Yaml
