/-
# `EntitySchema.Yaml.Graph.Merge` — mappings merged into others

The value of a merge key is a mapping, or a sequence of mappings, the entries of which come in
front of the entries of the mapping itself.  As a later entry for a key wins, the entries of the
mapping go before those merged in, and of a sequence the first mapping goes before the others.

The merge keys of a mapping are taken out before their values are looked at, so a mapping that is
merged into itself is merged as it is without them.  Hence one that is being merged is not merged
again.  Still there can be too many levels of mappings merged into others.
-/
import EntitySchema.Yaml.Graph.Basic

namespace EntitySchema.Yaml.Graph

/-- A step on the nodes of a document. -/
abbrev Step (α : Type) := StateT Graph (Except Fault) α

/-- The values of the merge keys of a mapping. -/
def merged (graph : Graph) (entries : List (Nat × Nat)) : List Nat :=
  (entries.filter fun (key, _) => graph.tag key = .merge).map (·.2)

/-- The entries of a mapping without its merge keys. -/
def own (graph : Graph) (entries : List (Nat × Nat)) : List (Nat × Nat) :=
  entries.filter fun (key, _) => graph.tag key ≠ .merge

/-- The mappings that the value of a merge key names, those that win last. -/
def mergeSources (graph : Graph) (id : Nat) : Except Fault (List Nat) :=
  match (graph.node id).body with
  | .mapping _ => .ok [id]
  | .sequence items =>
      if items.all fun item => (graph.entries? item).isSome then .ok items.reverse
      else .error .malformed
  | .scalar _ => .error .malformed

/-- The keys of default values among some entries count as strings. -/
def withStringKeys (graph : Graph) (entries : List (Nat × Nat)) : Graph :=
  entries.foldl (fun graph (key, _) =>
    if graph.tag key = .default then graph.setTag key .string else graph) graph

/-- The entries of a mapping once its merge keys are replaced, with a bound for nesting. -/
def flattenWithin : Nat → Nat → Step (List (Nat × Nat))
  | 0, _ => throw (.raised .tooDeep)
  | n + 1, id => do
      let graph ← get
      let some entries := graph.entries? id | throw .malformed
      let rest := graph.own entries
      let merged := graph.merged entries
      modify fun graph => (graph.setBody id (.mapping rest)).withStringKeys rest
      let blocks ← merged.mapM fun source => do
        let sources ← (← get).mergeSources source
        return (← sources.mapM (flattenWithin n)).flatten
      let all := blocks.flatten ++ rest
      modify (·.setBody id (.mapping all))
      return all

/-- The entries of a mapping once its merge keys are replaced. -/
def flatten (id : Nat) : Step (List (Nat × Nat)) := flattenWithin mostCalls id

end EntitySchema.Yaml.Graph
