/-
# `EntitySchema.Yaml.Graph.Basic` — the nodes of a document

A document is a graph of nodes, as an alias is one more way to reach the node with its anchor, even
from inside that node.  A node is referred to by its number.
-/
import EntitySchema.Yaml.Fault
import EntitySchema.Yaml.Tag

namespace EntitySchema.Yaml

/-- What a node has. -/
inductive Body where
  | scalar (text : Text.Str)
  | sequence (items : List Nat)
  | mapping (entries : List (Nat × Nat))

/-- A node: what it is, and what it has. -/
structure Node where
  tag : Tag
  body : Body

/-- The nodes of a document, by their numbers, and the texts of the mappings among them that stand
for scalars. -/
structure Graph where
  nodes : Array Node
  texts : List (Nat × Text.Str)

namespace Graph

/-- The most levels of nodes inside each other that a reader can go down. -/
def deepest : Nat := 490

/-- The most levels of anything that takes a single call for each. -/
def mostCalls : Nat := 2 * deepest

/-- The graph without nodes. -/
def empty : Graph := ⟨#[], []⟩

/-- The number of nodes. -/
def size (graph : Graph) : Nat := graph.nodes.size

/-- A node that stands for the lack of one. -/
def missing : Node := ⟨.unknown, .scalar ""⟩

/-- The node of a number. -/
def node (graph : Graph) (id : Nat) : Node := graph.nodes.getD id missing

/-- What the node of a number is. -/
def tag (graph : Graph) (id : Nat) : Tag := (graph.node id).tag

/-- The entries of a mapping. -/
def entries? (graph : Graph) (id : Nat) : Option (List (Nat × Nat)) :=
  match (graph.node id).body with
  | .mapping entries => some entries
  | .scalar _ | .sequence _ => none

/-- The graph with one more node. -/
def push (graph : Graph) (node : Node) : Graph := { graph with nodes := graph.nodes.push node }

/-- The graph with something else in a node. -/
def setBody (graph : Graph) (id : Nat) (body : Body) : Graph :=
  { graph with nodes := graph.nodes.modify id fun node => { node with body := body } }

/-- The graph with another tag of a node. -/
def setTag (graph : Graph) (id : Nat) (tag : Tag) : Graph :=
  { graph with nodes := graph.nodes.modify id fun node => { node with tag := tag } }

/-- The graph with the text of a mapping that stands for a scalar. -/
def setText (graph : Graph) (id : Nat) (text : Text.Str) : Graph :=
  { graph with texts := (id, text) :: graph.texts }

/-- The text of a node that is, or stands for, a scalar. -/
def text (graph : Graph) (id : Nat) : Text.Str :=
  match (graph.node id).body with
  | .scalar text => text
  | .sequence _ | .mapping _ => (graph.texts.lookup id).getD ""

end Graph

end EntitySchema.Yaml
