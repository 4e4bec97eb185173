import EvidenceTree.Graph.Height
import EvidenceTree.Graph.Walk
import EvidenceTree.Tree.Node

/-!
# Trees

A tree is a table of nodes with a version and a publication date. Nodes name their children by index
and may share them; the table is rooted in its first node, every index is in bounds, and no node is
its own descendant. All of this is part of the type, so no operation on a tree can meet a missing
node or run in a circle.
-/

namespace EvidenceTree

/-- The children of each node of a table whose child indices are in bounds. -/
def childGraph (nodes : Array Node)
    (bounded : ∀ i (h : i < nodes.size), ∀ c ∈ nodes[i].children, c < nodes.size) :
    Graph nodes.size :=
  fun i => nodes[i].children.pmap Fin.mk (bounded i.1 i.2)

/-- What makes a table a tree. -/
structure WellFormed (nodes : Array Node) : Prop where
  rooted : 0 < nodes.size
  index_eq : ∀ i (h : i < nodes.size), nodes[i].index = i
  root_iff : ∀ i (h : i < nodes.size), nodes[i].criterion = .root ↔ i = 0
  bounded : ∀ i (h : i < nodes.size), ∀ c ∈ nodes[i].children, c < nodes.size
  acyclic : (childGraph nodes bounded).Acyclic

/-- A table of nodes with a version and a publication date. -/
structure Tree where
  version : String
  publishDate : String
  nodes : Array Node
  wellFormed : WellFormed nodes

namespace Tree

/-- The number of nodes in the table, reachable or not. -/
abbrev size (t : Tree) : Nat := t.nodes.size

/-- The place of the root. -/
def root (t : Tree) : Fin t.size := ⟨0, t.wellFormed.rooted⟩

/-- The node at a place. -/
def node (t : Tree) (i : Fin t.size) : Node := t.nodes[i]

/-- The node at an index, if there is one. -/
def node? (t : Tree) (i : Nat) : Option Node := t.nodes[i]?

/-- The children of each node. -/
def graph (t : Tree) : Graph t.size := childGraph t.nodes t.wellFormed.bounded

/-- The children of a node, as the indices it names. -/
theorem map_val_graph (t : Tree) (i : Fin t.size) :
    (t.graph i).map Fin.val = (t.node i).children := by
  simp [graph, childGraph, node, List.map_pmap]

/-- No node is its own descendant. -/
theorem acyclic (t : Tree) : t.graph.Acyclic := t.wellFormed.acyclic

/-- The trees are equal, bounds as numbers. -/
def same (a b : Tree) : Bool :=
  a.version == b.version && a.publishDate == b.publishDate && a.size == b.size &&
    (a.nodes.toList.zip b.nodes.toList).all fun pair => pair.1.same pair.2

/-! ## What the root reaches -/

/-- The nodes that the root reaches, each once, a node before those below it. -/
def preorder (t : Tree) : List (Fin t.size) := t.graph.preorder t.root

/-- The number of nodes that the root reaches. -/
def reachable (t : Tree) : Nat := t.preorder.length

/-- The nodes without children that the root reaches. -/
def leaves (t : Tree) : List (Fin t.size) := t.preorder.filter fun i => (t.node i).isLeaf

/-- The profiles of the nodes that the root reaches, in ascending order, each once. -/
def profiles (t : Tree) : List ProfileId :=
  ((t.preorder.filterMap fun i => (t.node i).profile).mergeSort (· ≤ ·)).eraseReps

/-- The number of levels, the root's included. -/
def depth (t : Tree) : Nat := t.graph.height t.acyclic t.root

end Tree

end EvidenceTree
