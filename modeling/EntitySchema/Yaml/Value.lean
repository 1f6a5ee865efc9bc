/-
# `EntitySchema.Yaml.Value` — the value of a YAML text

A value is shown down to some depth, as a document may go round in circles.  Only what a reader of
a manifest can tell apart is told apart: strings, nothing, mappings, and all the rest.
-/
import EntitySchema.Yaml.Graph.Check
import EntitySchema.Yaml.Graph.OfTokens

namespace EntitySchema.Yaml

/-- A value, as far as it is shown. -/
inductive Value where
  | null
  | string (text : Text.Str)
  | mapping (entries : List (Value × Value))
  /-- A number, a truth value, a moment, bytes, a sequence or a set. -/
  | other

/-- The value of a node down to a depth; mappings further down are shown without entries. -/
def Graph.value (graph : Graph) : Nat → Nat → Value
  | 0, id =>
      match graph.tag id with
      | .null => .null
      | .string => .string (graph.text id)
      | .mapping => .mapping []
      | _ => .other
  | depth + 1, id =>
      match graph.tag id, graph.entries? id with
      | .mapping, some entries =>
          .mapping (entries.map fun (key, value) =>
            (graph.value depth key, graph.value depth value))
      | _, _ => graph.value 0 id

namespace Value

/-- The value of a text, down to a depth; a text without a document has none. -/
def ofText (depth : Nat) (text : List Char) : Except Fault Value := do
  let (graph, root?) ← Graph.ofTokens (Tokens.ofText text)
  match root? with
  | none => return .null
  | some root => return (← graph.checked root).value depth root

/-- Whether a value is a string of some text. -/
def isString (text : String) : Value → Bool
  | .string s => s == .text text
  | .null | .mapping _ | .other => false

/-- The value for a string as a key; of several the last one counts. -/
def find? (entries : List (Value × Value)) (key : String) : Option Value :=
  (entries.reverse.find? fun entry => entry.1.isString key).map (·.2)

end Value

end EntitySchema.Yaml
