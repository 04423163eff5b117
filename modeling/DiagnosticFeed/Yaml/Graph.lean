import DiagnosticFeed.Yaml.Tag

/-!
# Graphs of YAML nodes

A document is a graph and no tree: an alias stands for the very node that it names, and a node can
be reached from itself. So nodes are numbered, and collections hold the numbers of their parts.
-/

namespace DiagnosticFeed.Yaml

/-- The number of a node. -/
abbrev NodeId := Nat

inductive Node where
  | scalar (tag : Tag) (text : String)
  | seq (tag : Tag) (items : List NodeId)
  | map (tag : Tag) (entries : List (NodeId × NodeId))

namespace Node

/-- What a node is said to be. -/
def tag : Node → Tag
  | scalar t _ | seq t _ | map t _ => t

def withTag (t : Tag) : Node → Node
  | scalar _ text => scalar t text
  | seq _ items => seq t items
  | map _ entries => map t entries

/-- A node that is not there. -/
def absent : Node := .scalar .null ""

/-- How many nodes a node holds, itself included. -/
def width : Node → Nat
  | scalar .. => 1
  | seq _ items => items.length + 1
  | map _ entries => entries.length + 1

end Node

/-- Numbered nodes. -/
structure Graph where
  nodes : Array Node := #[]

namespace Graph

/-- The node of a number; a number that was never given stands for a node that is not there. -/
def get (g : Graph) (i : NodeId) : Node :=
  g.nodes[i]?.getD .absent

def set (g : Graph) (i : NodeId) (n : Node) : Graph :=
  ⟨g.nodes.setIfInBounds i n⟩

def add (g : Graph) (n : Node) : NodeId × Graph :=
  (g.nodes.size, ⟨g.nodes.push n⟩)

/-- What a node is said to be. -/
def tagOf (g : Graph) (i : NodeId) : Tag :=
  (g.get i).tag

/-- The graph with a node that is said to be something else. -/
def retag (g : Graph) (i : NodeId) (t : Tag) : Graph :=
  g.set i ((g.get i).withTag t)

/-- The entries of a mapping; other nodes have none. -/
def entriesOf (g : Graph) (i : NodeId) : List (NodeId × NodeId) :=
  match g.get i with
  | .map _ entries => entries
  | _ => []

/-- The graph with other entries in a mapping. -/
def withEntries (g : Graph) (i : NodeId) (entries : List (NodeId × NodeId)) : Graph :=
  match g.get i with
  | .map t _ => g.set i (.map t entries)
  | _ => g

/-- How many nodes all nodes hold together. -/
def width (g : Graph) : Nat :=
  g.nodes.foldl (fun n node ↦ n + node.width) 0

end Graph

end DiagnosticFeed.Yaml
