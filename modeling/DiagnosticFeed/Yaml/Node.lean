import DiagnosticFeed.Yaml.Form
import DiagnosticFeed.Yaml.Graph
import DiagnosticFeed.Yaml.Token

/-!
# Reading YAML nodes

Tokens as a graph of scalars, sequences and mappings. An anchor names a collection before its parts
are read, so an alias among them can stand for the collection itself. A text has at most one
document, and a document has a limit on how deep its collections lie.

Tokens are looked at no sooner than it is needed, because a text can end in the middle with a token
that is a fault. Every rule that calls another one has read a token or passes on to a smaller rule,
so a number that is a few times that of the tokens bounds the calls.
-/

namespace DiagnosticFeed.Yaml

/-- What the handles of a document's tags mean. -/
abbrev Handles := Keyed String String

/-- The handles that need no directive. -/
def usualHandles : Handles := [("!", "!"), ("!!", coreStart)]

/-- How many collections can lie inside each other. -/
def maxDepth : Nat := 487

/-- What is known while a document is read. -/
structure Reading where
  tokens : List Token
  handles : Handles := usualHandles
  anchors : Keyed String NodeId := []
  graph : Graph := {}
  /-- How many collections are open. -/
  depth : Nat := 0

namespace Reading

/-- The next token, unless it is a fault. -/
def look (r : Reading) : Except Fault Token :=
  match r.tokens.headD .streamEnd with
  | .broken why => .error why
  | t => .ok t

/-- What is left behind the next token. -/
def next (r : Reading) : Reading :=
  { r with tokens := r.tokens.tail }

/-- The next token must be the given one. -/
def expect (r : Reading) (t : Token) : Except Fault Reading := do
  if (← r.look) = t then return r.next else throw .unexpectedToken

def add (r : Reading) (n : Node) : NodeId × Reading :=
  let (i, g) := r.graph.add n
  (i, { r with graph := g })

def addAbsent (r : Reading) : NodeId × Reading :=
  r.add .absent

/-- Adds a node, which an anchor can name. -/
def addNamed (r : Reading) (anchor : Option String) (n : Node) : NodeId × Reading :=
  let (i, r) := r.add n
  match anchor with
  | some name => (i, { r with anchors := r.anchors.set name i })
  | none => (i, r)

def enter (r : Reading) (anchor : Option String) (n : Node) : Except Fault (NodeId × Reading) :=
  if maxDepth ≤ r.depth then .error .tooDeep
  else
    let (i, r) := r.addNamed anchor n
    .ok (i, { r with depth := r.depth + 1 })

/-- Ends a collection. -/
def leave (r : Reading) (i : NodeId) (n : Node) : Reading :=
  { r with graph := r.graph.set i n, depth := r.depth - 1 }

end Reading

/-- An anchor and a tag before a node, in either order. -/
structure Properties where
  anchor : Option String := none
  tag : Option (Option String × String) := none

/-- Reads an anchor and a tag, if they are there. -/
def readProperties (r : Reading) : Except Fault (Properties × Reading) := do
  match ← r.look with
  | .anchor a =>
    match ← r.next.look with
    | .tag h s => return (⟨some a, some (h, s)⟩, r.next.next)
    | _ => return (⟨some a, none⟩, r.next)
  | .tag h s =>
    match ← r.next.look with
    | .anchor a => return (⟨some a, some (h, s)⟩, r.next.next)
    | _ => return (⟨none, some (h, s)⟩, r.next)
  | _ => return ({}, r)

def Properties.tagName (p : Properties) (handles : Handles) : Except Fault (Option String) :=
  match p.tag with
  | none => .ok none
  | some (none, suffix) => .ok (some suffix)
  | some (some handle, suffix) =>
    match handles.get? handle with
    | some meaning => .ok (some (meaning ++ suffix))
    | none => .error .undefinedHandle

/-- The name of a tag that leaves open what a node is. -/
def openName : String := "!"

/-- The tag of a scalar. Without a name in front, only a plain scalar is what it looks like. -/
def scalarTag (name : Option String) (text : String) (plain : Bool) : Tag :=
  match name with
  | none => if plain then .ofPlain text else .text
  | some n => if n == openName then .ofPlain text else .ofName n

/-- The tag of a collection, with the usual one in reserve. -/
def collectionTag (name : Option String) (usual : Tag) : Tag :=
  match name with
  | none => usual
  | some n => if n == openName then usual else .ofName n

/-- Whether an anchor is new. -/
def checkAnchor (r : Reading) (anchor : Option String) : Except Fault Unit :=
  if anchor.any r.anchors.has then .error .repeatedAnchor else .ok ()

/-- A node of which there is nothing but properties. -/
def readEmpty (p : Properties) (name : Option String) (r : Reading) :
    Except Fault (NodeId × Reading) :=
  if p.anchor.isSome || name.isSome then
    .ok (r.addNamed p.anchor (.scalar (scalarTag name "" true) ""))
  else .error .unexpectedToken

mutual

/-- A node. In a block it can be a block collection; where a mapping's value stands, it can be a
sequence that is not indented further. -/
def readNode (block indentless : Bool) : Nat → Reading → Except Fault (NodeId × Reading)
  | 0, _ => .error .unexpectedToken
  | n + 1, r => do
    match ← r.look with
    | .alias_ name =>
      match r.anchors.get? name with
      | some i => return (i, r.next)
      | none => throw .undefinedAlias
    | _ =>
      let (p, r) ← readProperties r
      let name ← p.tagName r.handles
      let t ← r.look
      checkAnchor r p.anchor
      let seqTag := collectionTag name .seq
      let mapTag := collectionTag name .map
      match t with
      | .scalar text plain =>
        return r.next.addNamed p.anchor (.scalar (scalarTag name text plain) text)
      | .blockEntry =>
        if indentless then
          let (i, r) ← r.enter p.anchor (.seq seqTag [])
          let (items, r) ← readIndentless n [] r
          return (i, r.leave i (.seq seqTag items))
        else readEmpty p name r
      | .flowSequenceStart =>
        let (i, r) ← r.next.enter p.anchor (.seq seqTag [])
        let (items, r) ← readFlowSequence n true [] r
        return (i, r.leave i (.seq seqTag items))
      | .flowMappingStart =>
        let (i, r) ← r.next.enter p.anchor (.map mapTag [])
        let (entries, r) ← readFlowMapping n true [] r
        return (i, r.leave i (.map mapTag entries))
      | .blockSequenceStart =>
        if block then
          let (i, r) ← r.next.enter p.anchor (.seq seqTag [])
          let (items, r) ← readBlockSequence n [] r
          return (i, r.leave i (.seq seqTag items))
        else readEmpty p name r
      | .blockMappingStart =>
        if block then
          let (i, r) ← r.next.enter p.anchor (.map mapTag [])
          let (entries, r) ← readBlockMapping n [] r
          return (i, r.leave i (.map mapTag entries))
        else readEmpty p name r
      | _ => readEmpty p name r

def readBlockSequence : Nat → List NodeId → Reading → Except Fault (List NodeId × Reading)
  | 0, _, _ => .error .unexpectedToken
  | n + 1, found, r => do
    match ← r.look with
    | .blockEntry =>
      let r := r.next
      let (i, r) ← (match ← r.look with
        | .blockEntry | .blockEnd => pure r.addAbsent
        | _ => readNode true false n r : Except Fault (NodeId × Reading))
      readBlockSequence n (found ++ [i]) r
    | _ => return (found, ← r.expect .blockEnd)

/-- The entries of a sequence that is not indented. -/
def readIndentless : Nat → List NodeId → Reading → Except Fault (List NodeId × Reading)
  | 0, _, _ => .error .unexpectedToken
  | n + 1, found, r => do
    match ← r.look with
    | .blockEntry =>
      let r := r.next
      let (i, r) ← (match ← r.look with
        | .blockEntry | .key | .value | .blockEnd => pure r.addAbsent
        | _ => readNode true false n r : Except Fault (NodeId × Reading))
      readIndentless n (found ++ [i]) r
    | _ => return (found, r)

def readBlockMapping : Nat → List (NodeId × NodeId) → Reading →
    Except Fault (List (NodeId × NodeId) × Reading)
  | 0, _, _ => .error .unexpectedToken
  | n + 1, found, r => do
    match ← r.look with
    | .key =>
      let (k, r) ← readBlockPart n r.next
      let (v, r) ← readBlockValue n r
      readBlockMapping n (found ++ [(k, v)]) r
    | _ => return (found, ← r.expect .blockEnd)

/-- The value of a block mapping's entry, if it has one. -/
def readBlockValue : Nat → Reading → Except Fault (NodeId × Reading)
  | 0, _ => .error .unexpectedToken
  | n + 1, r => do
    match ← r.look with
    | .value => readBlockPart n r.next
    | _ => return r.addAbsent

/-- The key or the value of a block mapping's entry, behind its mark. -/
def readBlockPart : Nat → Reading → Except Fault (NodeId × Reading)
  | 0, _ => .error .unexpectedToken
  | n + 1, r => do
    match ← r.look with
    | .key | .value | .blockEnd => return r.addAbsent
    | _ => readNode true true n r

/-- The entries of a flow sequence; an entry can be a mapping of one key. -/
def readFlowSequence : Nat → Bool → List NodeId → Reading → Except Fault (List NodeId × Reading)
  | 0, _, _, _ => .error .unexpectedToken
  | n + 1, first, found, r => do
    match ← r.look with
    | .flowSequenceEnd => return (found, r.next)
    | _ =>
      let r ← if first then pure r else r.expect .flowEntry
      match ← r.look with
      | .flowSequenceEnd => return (found, r.next)
      | .key =>
        let (i, r) ← r.next.enter none (.map .map [])
        let (k, r) ← readFlowPart n [.value, .flowEntry, .flowSequenceEnd] r
        let (v, r) ← readFlowValue n .flowSequenceEnd r
        readFlowSequence n false (found ++ [i]) (r.leave i (.map .map [(k, v)]))
      | _ =>
        let (i, r) ← readNode false false n r
        readFlowSequence n false (found ++ [i]) r

/-- The entries of a flow mapping; an entry can lack its value. -/
def readFlowMapping : Nat → Bool → List (NodeId × NodeId) → Reading →
    Except Fault (List (NodeId × NodeId) × Reading)
  | 0, _, _, _ => .error .unexpectedToken
  | n + 1, first, found, r => do
    match ← r.look with
    | .flowMappingEnd => return (found, r.next)
    | _ =>
      let r ← if first then pure r else r.expect .flowEntry
      match ← r.look with
      | .flowMappingEnd => return (found, r.next)
      | .key =>
        let (k, r) ← readFlowPart n [.value, .flowEntry, .flowMappingEnd] r.next
        let (v, r) ← readFlowValue n .flowMappingEnd r
        readFlowMapping n false (found ++ [(k, v)]) r
      | _ =>
        let (k, r) ← readNode false false n r
        let (v, r) := r.addAbsent
        readFlowMapping n false (found ++ [(k, v)]) r

/-- The value of an entry in a flow collection, if it has one. -/
def readFlowValue : Nat → Token → Reading → Except Fault (NodeId × Reading)
  | 0, _, _ => .error .unexpectedToken
  | n + 1, close, r => do
    match ← r.look with
    | .value => readFlowPart n [.flowEntry, close] r.next
    | _ => return r.addAbsent

/-- The key or the value of an entry in a flow collection; it is absent before any of the given
tokens. -/
def readFlowPart : Nat → List Token → Reading → Except Fault (NodeId × Reading)
  | 0, _, _ => .error .unexpectedToken
  | n + 1, ends, r => do
    if ends.contains (← r.look) then return r.addAbsent else readNode false false n r

end

/-! ## Documents -/

/-- How many calls reading a number of tokens can take. -/
def readingCalls (r : Reading) : Nat :=
  8 * r.tokens.length + 8

/-- Drops the ends of documents. -/
def skipEnds : List Token → List Token
  | .documentEnd :: ts => skipEnds ts
  | ts => ts

/-- The handles that directives define, and what is behind the directives. -/
def readDirectives (versioned : Bool) (handles : Handles) :
    List Token → Except Fault (Handles × List Token)
  | .directive (.version major) :: ts =>
    if versioned || major ≠ 1 then .error .badDirective else readDirectives true handles ts
  | .directive (.tagHandle h m) :: ts =>
    if handles.has h then .error .badDirective else readDirectives versioned (handles.set h m) ts
  | .directive .other :: ts => readDirectives versioned handles ts
  | ts => .ok (handles ++ usualHandles.filter fun e ↦ !handles.has e.1, ts)

/-- The start of a document with directives, a start mark, or both; there is none at the end of the
text. -/
def startExplicit (ts : List Token) : Except Fault (Option Reading) := do
  let r : Reading := { tokens := skipEnds ts }
  if (← r.look) = .streamEnd then return none
  let (handles, ts) ← readDirectives false [] r.tokens
  return some (← { tokens := ts, handles := handles : Reading }.expect .documentStart)

def readContent (r : Reading) : Except Fault (NodeId × Reading) := do
  match ← r.look with
  | .directive _ | .documentStart | .documentEnd | .streamEnd => return r.addAbsent
  | _ => readNode true false (readingCalls r) r

/-- The first document of a text, if there is one. -/
def readFirst (ts : List Token) : Except Fault (Option (NodeId × Reading)) := do
  let r : Reading := { tokens := ts }
  match ← r.look with
  | .directive _ | .documentStart | .streamEnd =>
    match ← startExplicit ts with
    | some r => return some (← readContent r)
    | none => return none
  | _ => return some (← readNode true false (readingCalls r) r)

/-- The only document of a text, if there is one: its graph, and the outermost node in it. -/
def readDocument (ts : List Token) : Except Fault (Option (NodeId × Graph)) := do
  match ← readFirst ts with
  | none => return none
  | some (i, r) =>
    match ← startExplicit r.tokens with
    | none => return some (i, r.graph)
    | some _ => throw .secondDocument

end DiagnosticFeed.Yaml
