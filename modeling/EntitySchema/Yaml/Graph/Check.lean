/-
# `EntitySchema.Yaml.Graph.Check` — documents that have a value

Every node must have what its tag says: a scalar must be written as such, a collection must be one,
and no key may be a collection.  A mapping that is said to be a scalar stands for its default value.
Scalars are looked at when they are reached, the inside of a collection only after everything
reached before it, so of several faults the one met first in this order counts.  Merge keys are
replaced on the way.
-/
import EntitySchema.Yaml.Graph.Merge
import EntitySchema.Yaml.Resolution

namespace EntitySchema.Yaml.Graph

/-- The nodes that have been reached, and of these the collections to be looked into, the last one
first. -/
structure Frontier where
  reached : Array Bool
  waiting : List Nat

namespace Frontier

/-- Nothing has been reached yet. -/
def start (graph : Graph) : Frontier := ⟨Array.replicate graph.size false, []⟩

/-- Whether a node has been reached. -/
def hasReached (frontier : Frontier) (id : Nat) : Bool := frontier.reached.getD id false

/-- The frontier with one more node reached. -/
def reach (frontier : Frontier) (id : Nat) : Frontier :=
  { frontier with reached := frontier.reached.setIfInBounds id true }

/-- The frontier with one more collection to be looked into. -/
def wait (frontier : Frontier) (id : Nat) : Frontier :=
  { frontier with waiting := id :: frontier.waiting }

end Frontier

/-- A step of the check. -/
abbrev Checking (α : Type) := StateT Frontier (StateT Graph (Except Fault)) α

/-- The text of a scalar, or that of the default value of a mapping, with a bound for default values
inside each other. -/
def scalarText (graph : Graph) : Nat → Nat → Except Fault Text.Str
  | 0, _ => .error (.raised .tooDeep)
  | n + 1, id =>
      match (graph.node id).body with
      | .scalar text => .ok text
      | .sequence _ => .error .malformed
      | .mapping entries =>
          match entries.find? fun (key, _) => graph.tag key = .default with
          | some (_, value) => graph.scalarText n value
          | none => .error .malformed

/-- Reaches a node that is said to be a scalar. -/
def reachScalar (id : Nat) (node : Node) : Checking Unit := do
  if [Tag.merge, .default, .unknown].contains node.tag then throw .malformed
  let text ← (← getThe Graph).scalarText mostCalls id
  match node.body with
  | .scalar _ => pure ()
  | .sequence _ | .mapping _ =>
      if node.tag = .timestamp then throw (.raised .noText)
      modifyThe Graph (·.setText id text)
  if let some fault := node.tag.scalarFault? text.characters then throw fault
  modify (·.reach id)

/-- Reaches a node. -/
def reach (id : Nat) : Checking Unit := do
  if (← get).hasReached id then return
  let node := (← getThe Graph).node id
  if node.tag.isCollection then modify fun frontier => (frontier.reach id).wait id
  else reachScalar id node

/-- Reaches the key and the value of an entry. -/
def reachEntry (entry : Nat × Nat) : Checking Unit := do
  reach entry.1
  if ((← getThe Graph).tag entry.1).isCollection then throw .malformed
  reach entry.2

/-- Reaches the key and the value of a mapping of one entry. -/
def reachPair (id : Nat) : Checking Unit := do
  match (← getThe Graph).entries? id with
  | some [(key, value)] =>
      reach key
      reach value
  | _ => throw .malformed

/-- Looks into a collection. -/
def lookInto (id : Nat) : Checking Unit := do
  let node := (← getThe Graph).node id
  match node.tag, node.body with
  | .sequence, .sequence items => items.forM reach
  | .pairs, .sequence items => items.forM reachPair
  | .mapping, .mapping _ | .set, .mapping _ => (← flatten id).forM reachEntry
  | _, _ => throw .malformed

/-- Looks into the collections that wait, then into those met there, with a bound for the number of
rounds. -/
def lookIntoAll : Nat → Checking Unit
  | 0 => throw .malformed
  | n + 1 => do
      let waiting := (← get).waiting
      if waiting.isEmpty then return
      modify ({ · with waiting := [] })
      waiting.reverse.forM lookInto
      lookIntoAll n

/-- Looks into everything that is reached from a root. -/
def checkFrom (root : Nat) : Checking Unit := do
  reach root
  lookIntoAll ((← getThe Graph).size + 1)

/-- The graph with its merge keys replaced, if it has a value from a root on. -/
def checked (graph : Graph) (root : Nat) : Except Fault Graph :=
  (·.2) <$> ((checkFrom root).run (.start graph)).run graph

end EntitySchema.Yaml.Graph
