import ApiTypes.Yaml.Tag

/-!
# Nodes

The content of a document is a graph of nodes: scalars, sequences and mappings, each with
its tag. The nodes are numbered in the order in which they begin, and the parts of a
sequence or of a mapping are named by their numbers. A reference to an anchor is the
number of the node with that anchor, so one node can be a part of several others.
-/

namespace ApiTypes.Yaml

/-- What a node holds. -/
inductive Content where
  /-- A text. -/
  | scalar (text : Text)
  /-- Items, by their numbers. -/
  | sequence (items : List Nat)
  /-- Keys and values, by their numbers. -/
  | mapping (entries : List (Nat × Nat))
deriving DecidableEq, Repr

/-- **A node.** -/
structure Node where
  /-- What kind of value the node is. -/
  tag : Tag
  /-- What the node holds. -/
  content : Content
deriving DecidableEq, Repr

/-- The empty scalar. -/
def Node.empty : Node := ⟨.null, .scalar []⟩

/-- **A graph of nodes**: the nodes by their numbers. -/
structure Graph where
  /-- The nodes. -/
  nodes : Array Node := #[]
deriving DecidableEq, Repr

namespace Graph

/-- The number of nodes. -/
def size (g : Graph) : Nat := g.nodes.size

/-- The node with a number. -/
def get (g : Graph) (n : Nat) : Node := g.nodes[n]?.getD Node.empty

/-- The graph with one more node. -/
def push (g : Graph) (node : Node) : Graph := ⟨g.nodes.push node⟩

/-- The graph with another node for a number. -/
def set (g : Graph) (n : Nat) (node : Node) : Graph := ⟨g.nodes.setIfInBounds n node⟩

@[simp]
theorem size_push (g : Graph) (node : Node) : (g.push node).size = g.size + 1 := by
  simp [size, push]

@[simp]
theorem size_set (g : Graph) (n : Nat) (node : Node) : (g.set n node).size = g.size := by
  simp [size, set]

@[simp]
theorem get_push_self (g : Graph) (node : Node) : (g.push node).get g.size = node := by
  simp [get, push, size]

theorem get_set_self {g : Graph} {n : Nat} (h : n < g.size) (node : Node) :
    (g.set n node).get n = node := by
  simp only [size] at h
  simp [get, set, h]

theorem get_set_of_ne {g : Graph} {m n : Nat} (h : m ≠ n) (node : Node) :
    (g.set n node).get m = g.get m := by
  simp [get, set, h.symm]

end Graph

end ApiTypes.Yaml
