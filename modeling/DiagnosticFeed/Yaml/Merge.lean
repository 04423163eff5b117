import DiagnosticFeed.Yaml.Fault
import DiagnosticFeed.Yaml.Graph

/-!
# Mappings that take in others

A mapping can have others merged into it. Their entries come first, so that its own count where both
have a key, and of several merged mappings the first counts. Merging changes the graph: the entry
that asks for it is gone, and all that reach the mapping see it merged. As the entry goes first, a
mapping can even be merged into itself.

The key of a mapping's usual value is text once the mapping is looked at as one.
-/

namespace DiagnosticFeed.Yaml

/-- The first entry whose value is to be merged in, and the other entries. -/
def takeMerge (g : Graph) :
    List (NodeId × NodeId) → Option (NodeId × List (NodeId × NodeId))
  | [] => none
  | e :: es =>
    if g.tagOf e.1 = .merge then some (e.2, es)
    else (takeMerge g es).map fun (v, rest) ↦ (v, e :: rest)

/-- The graph with text where a mapping has the key of its usual value. -/
def settleValues (g : Graph) (i : NodeId) : Graph :=
  (g.entriesOf i).foldl (fun g e ↦ if g.tagOf e.1 = .value then g.retag e.1 .text else g) g

mutual

/-- The graph with all merged into a mapping that it asks for. -/
def mergeInto : Nat → NodeId → Graph → Except Fault Graph
  | 0, _, _ => .error .badMerge
  | n + 1, i, g => do
    let (found, g) ← collectMerges n i [] g
    return settleValues (g.withEntries i (found ++ g.entriesOf i)) i

/-- The entries that a mapping asks for, which it asks for no longer. -/
def collectMerges : Nat → NodeId → List (NodeId × NodeId) → Graph →
    Except Fault (List (NodeId × NodeId) × Graph)
  | 0, _, _, _ => .error .badMerge
  | n + 1, i, found, g =>
    match takeMerge g (g.entriesOf i) with
    | none => .ok (found, g)
    | some (v, rest) => do
      let (more, g) ← mergedEntries n v (g.withEntries i rest)
      collectMerges n i (found ++ more) g

/-- The entries of a node that is merged into a mapping: a mapping, or a sequence of some. -/
def mergedEntries : Nat → NodeId → Graph → Except Fault (List (NodeId × NodeId) × Graph)
  | 0, _, _ => .error .badMerge
  | n + 1, v, g =>
    match g.get v with
    | .scalar .. => .error .badMerge
    | .seq _ items => mergedItems n items g
    | .map .. => do
      let g ← mergeInto n v g
      return (g.entriesOf v, g)

/-- The entries of several mappings, those of the last one first. -/
def mergedItems : Nat → List NodeId → Graph → Except Fault (List (NodeId × NodeId) × Graph)
  | 0, _, _ => .error .badMerge
  | _, [], g => .ok ([], g)
  | n + 1, v :: vs, g =>
    match g.get v with
    | .map .. => do
      let g ← mergeInto n v g
      let own := g.entriesOf v
      let (others, g) ← mergedItems n vs g
      return (others ++ own, g)
    | _ => .error .badMerge

end

/-- Whether a mapping has a key of a kind that is looked at here. -/
def isPlainMapping (g : Graph) (i : NodeId) : Bool :=
  (g.entriesOf i).all fun e ↦ g.tagOf e.1 ≠ .merge && g.tagOf e.1 ≠ .value

/-- The graph with a mapping merged. Every call has taken an entry away or passes on to a part of a
node, so a few times the width of the graph bounds the calls. -/
def Graph.merged (g : Graph) (i : NodeId) : Except Fault Graph :=
  if isPlainMapping g i then .ok g else mergeInto (4 * g.width + 4) i g

end DiagnosticFeed.Yaml
