import DiagnosticFeed.Yaml.Merge
import DiagnosticFeed.Yaml.Node
import DiagnosticFeed.Yaml.Scalar

/-!
# What YAML nodes mean

A graph of nodes as configuration data. Nodes are valued from the outermost one inwards, all of one
depth before those of the next: a collection stands for itself as soon as it is met, and its parts
are valued when its turn comes. So the fault that lies least deep is the one that is told.

Of two entries of one key the last counts, in the place of the first. Sequences and mappings are no
keys.

A node can be reached from itself, so the data that a graph stands for can be endless. It is looked
at only down to the depth of the settings, and `datum` ends there.
-/

namespace DiagnosticFeed.Yaml

open Config (Datum)

/-- What a node stands for; parts of a collection are still nodes. -/
inductive Finding where
  | leaf (d : Datum)
  | seq (items : List NodeId)
  | pairs (items : List (NodeId × NodeId))
  | set (keys : List Datum)
  | map (entries : List (Datum × NodeId))

/-- The state of valuing nodes. -/
structure Valuation where
  graph : Graph
  found : Array (Option Finding)
  /-- The collections in the order in which they were met. -/
  met : Array NodeId := #[]

namespace Valuation

def finding? (v : Valuation) (i : NodeId) : Option Finding :=
  (v.found[i]?).join

/-- The state with what a node stands for. -/
def put (v : Valuation) (i : NodeId) (f : Finding) : Valuation :=
  { v with found := v.found.setIfInBounds i (some f) }

/-- The state after a collection was met, as yet without its parts. -/
def meet (v : Valuation) (i : NodeId) (f : Finding) : Valuation :=
  { v.put i f with met := v.met.push i }

/-- The text that a node stands for as a scalar. A mapping stands for what its usual value stands
for. -/
def scalarText (g : Graph) : Nat → NodeId → Except Fault String
  | 0, _ => .error .tooDeep
  | n + 1, i =>
    match g.get i with
    | .scalar _ text => .ok text
    | .seq .. => .error .tagMismatch
    | .map _ entries =>
      match entries.find? fun e ↦ g.tagOf e.1 = .value with
      | some e => scalarText g n e.2
      | none => .error .tagMismatch

/-- The value of a node whose tag is one of a scalar. A date is told by its own text alone. -/
def scalarValue (g : Graph) (i : NodeId) : Except Fault Datum := do
  let n := g.get i
  if [Tag.merge, .value, .unknown].contains n.tag then throw .unknownTag
  let text ← scalarText g (g.nodes.size + 1) i
  match n, n.tag with
  | .map .., .date => noValue .mappingAsDate
  | _, t => t.valueOf text

def visit (v : Valuation) (i : NodeId) : Except Fault Valuation :=
  if (v.finding? i).isSome then .ok v
  else
    match v.graph.tagOf i with
    | .seq => .ok (v.meet i (.seq []))
    | .pairs => .ok (v.meet i (.pairs []))
    | .set => .ok (v.meet i (.set []))
    | .map => .ok (v.meet i (.map []))
    | _ => (scalarValue v.graph i).map fun d ↦ v.put i (.leaf d)

/-- The value of a node as a key. -/
def key (v : Valuation) (i : NodeId) : Except Fault (Datum × Valuation) := do
  let v ← v.visit i
  match v.finding? i with
  | some (.leaf d) => return (d, v)
  | _ => throw .unhashableKey

/-- Sets what a key stands for, in place if it is text and there. -/
def putEntry (k : Datum) (i : NodeId) : List (Datum × NodeId) → List (Datum × NodeId)
  | [] => [(k, i)]
  | e :: es =>
    if (k.text?.map e.1.isText).getD false then (e.1, i) :: es else e :: putEntry k i es

def visitEntries (v : Valuation) (found : List (Datum × NodeId)) :
    List (NodeId × NodeId) → Except Fault (List (Datum × NodeId) × Valuation)
  | [] => .ok (found, v)
  | (k, i) :: es => do
    let (d, v) ← v.key k
    visitEntries (← v.visit i) (putEntry d i found) es

/-- Values the entries of a mapping after what it asks for was merged in. -/
def visitMap (v : Valuation) (i : NodeId) : Except Fault (List (Datum × NodeId) × Valuation) := do
  match v.graph.get i with
  | .map .. =>
    let g ← v.graph.merged i
    visitEntries { v with graph := g } [] (g.entriesOf i)
  | _ => throw .tagMismatch

def visitItems (v : Valuation) : List NodeId → Except Fault Valuation
  | [] => .ok v
  | i :: is => do visitItems (← v.visit i) is

/-- Values the items of a sequence of mappings with one entry each. -/
def visitPairs (v : Valuation) (found : List (NodeId × NodeId)) :
    List NodeId → Except Fault (List (NodeId × NodeId) × Valuation)
  | [] => .ok (found, v)
  | i :: is =>
    match v.graph.get i with
    | .map _ [(a, b)] => do
      let v ← v.visit a
      let v ← v.visit b
      visitPairs v (found ++ [(a, b)]) is
    | _ => .error .tagMismatch

/-- Values the parts of a collection. -/
def fill (v : Valuation) (i : NodeId) : Except Fault Valuation := do
  match v.graph.tagOf i, v.graph.get i with
  | .seq, .seq _ items => return (← v.visitItems items).put i (.seq items)
  | .pairs, .seq _ items =>
    let (found, v) ← v.visitPairs [] items
    return v.put i (.pairs found)
  | .set, _ =>
    let (found, v) ← v.visitMap i
    return v.put i (.set (found.map (·.1)))
  | .map, _ =>
    let (found, v) ← v.visitMap i
    return v.put i (.map found)
  | _, _ => throw .tagMismatch

/-- Values the parts of all collections from a place in their order on. Each node is met at most
once, so the number of nodes bounds the calls. -/
def fillFrom : Nat → Nat → Valuation → Except Fault Valuation
  | 0, _, v => .ok v
  | n + 1, k, v =>
    match v.met[k]? with
    | none => .ok v
    | some i => do fillFrom n (k + 1) (← v.fill i)

/-- What all nodes of a graph stand for that can be reached from one. -/
def ofGraph (g : Graph) (i : NodeId) : Except Fault Valuation := do
  let v : Valuation := { graph := g, found := Array.replicate g.nodes.size none }
  fillFrom (g.nodes.size + 1) 0 (← v.visit i)

/-! ## Data -/

/-- A part that lies too deep to matter, unless it is a scalar. -/
def leafDatum (v : Valuation) (i : NodeId) : Datum :=
  match v.finding? i with
  | some (.leaf d) => d
  | _ => .other "collection"

/-- The data that a node stands for, with mappings down to a depth. -/
def datum (v : Valuation) : Nat → NodeId → Datum
  | 0, i => v.leafDatum i
  | n + 1, i =>
    match v.finding? i with
    | some (.leaf d) => d
    | some (.seq items) => .seq (items.map v.leafDatum)
    | some (.pairs items) =>
      .seq (items.map fun e ↦ .seq [v.leafDatum e.1, v.leafDatum e.2])
    | some (.set keys) => .seq keys
    | some (.map entries) => .map (entries.map fun e ↦ (e.1, v.datum n e.2))
    | none => .null

end Valuation

/-- How deep mappings are looked at: more than settings lie inside each other. -/
def datumDepth : Nat := 5

/-- The data of a text; a text without a document is null. -/
def read (s : String) : Except Fault Datum := do
  match ← readDocument (← tokens s.toList) with
  | some (i, g) => return (← Valuation.ofGraph g i).datum datumDepth i
  | none => return .null

end DiagnosticFeed.Yaml
