/-
# `EntitySchema.Yaml.Graph.OfTokens` — from tokens to the nodes of a document

A text may have one document.  Its nodes are read token by token, so that a fault of the text
comes up only where the tokens in front of it fit together.  An anchor may be defined once, and an
alias only refers back.

Nodes can stand inside each other down to some level only.  Each reader has a bound for its steps as
well, which is the number of tokens: between two nodes, one inside the other or one after the other,
there is a token at least.
-/
import EntitySchema.Yaml.Graph.Basic
import EntitySchema.Yaml.Resolution
import EntitySchema.Yaml.Tokens

namespace EntitySchema.Yaml

/-- What has been read of a document: the tokens that are left, the levels that can still be gone
down, the meaning of handles, the nodes that have anchors, and all nodes. -/
structure Reading where
  left : List Token
  fault : Fault
  room : Nat
  handles : Handles
  anchors : List (String × Nat)
  graph : Graph

/-- A reader of a part of a document. -/
abbrev Reader (α : Type) := StateT Reading (Except Fault) α

namespace Reader

/-- Stops, as tokens do not fit together. -/
def malformed {α : Type} : Reader α := throw .malformed

/-- The next token. -/
def peek : Reader Token := do
  let reading ← get
  match reading.left with
  | token :: _ => return token
  | [] => throw reading.fault

/-- Goes on by one token. -/
def skip : Reader Unit := modify fun reading => { reading with left := reading.left.drop 1 }

/-- Reads a token if it is of a kind. -/
def accept (p : Token → Bool) : Reader Bool := do
  if p (← peek) then
    skip
    return true
  else return false

/-! ## Kinds of token -/

/-- Whether a token ends the entries of a block. -/
def isBlockEnd : Token → Bool
  | .blockEnd => true
  | _ => false

/-- Whether a token is the dash of an entry. -/
def isDash : Token → Bool
  | .blockEntry => true
  | _ => false

/-- Whether a token begins a key. -/
def isKey : Token → Bool
  | .key => true
  | _ => false

/-- Whether a token begins a value. -/
def isValue : Token → Bool
  | .value => true
  | _ => false

/-- Whether a token is the comma between entries. -/
def isComma : Token → Bool
  | .flowEntry => true
  | _ => false

/-- Whether a token closes a sequence in brackets. -/
def isSequenceEnd : Token → Bool
  | .flowSequenceEnd => true
  | _ => false

/-- Whether a token closes a mapping in brackets. -/
def isMappingEnd : Token → Bool
  | .flowMappingEnd => true
  | _ => false

/-- Whether a token ends a document. -/
def isDocumentEnd : Token → Bool
  | .documentEnd => true
  | _ => false

/-- Whether a token begins a document. -/
def isDocumentStart : Token → Bool
  | .documentStart => true
  | _ => false

/-- Whether a token cannot begin the content of a document. -/
def isOutside : Token → Bool
  | .directive _ | .documentStart | .documentEnd | .endOfText => true
  | _ => false

/-! ## Nodes -/

/-- Adds a node. -/
def addNode (node : Node) : Reader Nat :=
  modifyGet fun reading =>
    (reading.graph.size, { reading with graph := reading.graph.push node })

/-- A node for nothing at all. -/
def nothing : Reader Nat := addNode ⟨.ofPlain "", .scalar ""⟩

/-- Says what a node has. -/
def fill (id : Nat) (body : Body) : Reader Unit :=
  modify fun reading => { reading with graph := reading.graph.setBody id body }

/-- Reads what stands inside a node, a level further down. -/
def inside {α : Type} (content : Reader α) : Reader α := do
  let room := (← get).room
  if room = 0 then throw (.raised .tooDeep)
  modify ({ · with room := room - 1 })
  let found ← content
  modify ({ · with room })
  return found

/-- What may stand in front of the content of a node: an anchor, and the address of a tag. -/
structure Properties where
  anchor : Option String
  address : Option String

/-- Reads an anchor if there is one. -/
def anchor? : Reader (Option String) := do
  match ← peek with
  | .anchor name =>
      skip
      return some name
  | _ => return none

/-- Reads a tag if there is one. -/
def tag? : Reader (Option TagText) := do
  match ← peek with
  | .tag tag =>
      skip
      return some tag
  | _ => return none

/-- The address that a tag stands for. -/
def address (tag : TagText) : Reader String := do
  match tag.address? (← get).handles with
  | some address => return address
  | none => malformed

/-- Reads an anchor and a tag in either order. -/
def properties : Reader Properties := do
  let first ← anchor?
  let tag ← tag?
  let anchor ← if first.isNone && tag.isSome then anchor? else pure first
  return ⟨anchor, ← tag.mapM address⟩

/-- The address of a tag, unless the tag leaves it to the node itself what it is. -/
def Properties.given (p : Properties) : Option String := p.address.filter (· != plainAddress)

/-- Adds the node of some properties, which is a thing by default. -/
def begin (p : Properties) (byDefault : Tag) (body : Body) : Reader Nat := do
  let reading ← get
  if p.anchor.any fun name => (reading.anchors.lookup name).isSome then malformed
  let id ← addNode ⟨(p.given.map Tag.ofAddress).getD byDefault, body⟩
  if let some name := p.anchor then
    modify fun reading => { reading with anchors := (name, id) :: reading.anchors }
  return id

/-- The node that an alias refers to. -/
def aliased (name : String) : Reader Nat := do
  match (← get).anchors.lookup name with
  | some id => return id
  | none => malformed

/-- Adds a scalar of some properties: what it is, it says itself if it is plain, or has a tag that
leaves this to it. -/
def addScalar (p : Properties) (plain : Bool) (text : Text.Str) : Reader Nat :=
  let resolved := if p.address.isNone then plain else p.given.isNone
  begin p (if resolved then .ofPlain text else .string) (.scalar text)

/-! ## Collections

Each reader has a bound for its steps. -/

mutual

/-- Reads a node.  Blocks may begin where it stands, or not; so may a sequence without an
indentation of its own. -/
def nodeWithin (block dashes : Bool) : Nat → Reader Nat
  | 0 => malformed
  | n + 1 => do
      if let .alias name := ← peek then
        skip
        return ← aliased name
      let p ← properties
      match ← peek, block, dashes with
      | .blockEntry, _, true =>
          let id ← begin p .sequence (.sequence [])
          fill id (.sequence (← inside (dashedItems n)))
          return id
      | .scalar plain text, _, _ =>
          skip
          addScalar p plain text
      | .flowSequenceStart, _, _ =>
          skip
          let id ← begin p .sequence (.sequence [])
          fill id (.sequence (← inside (bracketItems true n)))
          return id
      | .flowMappingStart, _, _ =>
          skip
          let id ← begin p .mapping (.mapping [])
          fill id (.mapping (← inside (bracketEntries true n)))
          return id
      | .blockSequenceStart, true, _ =>
          skip
          let id ← begin p .sequence (.sequence [])
          fill id (.sequence (← inside (blockItems n)))
          return id
      | .blockMappingStart, true, _ =>
          skip
          let id ← begin p .mapping (.mapping [])
          fill id (.mapping (← inside (blockEntries n)))
          return id
      | _, _, _ =>
          if p.anchor.isSome || p.address.isSome then addScalar p true "" else malformed

/-- Reads a node, or nothing where a token shows that there is none. -/
def optionalWithin (block dashes : Bool) (ends : Token → Bool) : Nat → Reader Nat
  | 0 => malformed
  | n + 1 => do if ends (← peek) then nothing else nodeWithin block dashes n

/-- Reads the items of a sequence that is a block of its own. -/
def blockItems : Nat → Reader (List Nat)
  | 0 => malformed
  | n + 1 => do
      if ← accept isDash then
        let item ← optionalWithin true false (fun t => isDash t || isBlockEnd t) n
        let more ← blockItems n
        return item :: more
      else if ← accept isBlockEnd then return []
      else malformed

/-- Reads the items of a sequence without an indentation of its own. -/
def dashedItems : Nat → Reader (List Nat)
  | 0 => malformed
  | n + 1 => do
      if ← accept isDash then
        let ends := fun t => isDash t || isKey t || isValue t || isBlockEnd t
        let item ← optionalWithin true false ends n
        let more ← dashedItems n
        return item :: more
      else return []

/-- Reads the entries of a mapping that is a block. -/
def blockEntries : Nat → Reader (List (Nat × Nat))
  | 0 => malformed
  | n + 1 => do
      if ← accept isKey then
        let ends := fun t => isKey t || isValue t || isBlockEnd t
        let key ← optionalWithin true true ends n
        let value ← if ← accept isValue then optionalWithin true true ends n else nothing
        let more ← blockEntries n
        return (key, value) :: more
      else if ← accept isBlockEnd then return []
      else malformed

/-- Reads the items of a sequence in brackets; after the first of them, commas come in front. -/
def bracketItems (first : Bool) : Nat → Reader (List Nat)
  | 0 => malformed
  | n + 1 => do
      if ← accept isSequenceEnd then return []
      if !first then
        if !(← accept isComma) then malformed
      if isKey (← peek) then
        let item ← pairWithin n
        let more ← bracketItems false n
        return item :: more
      else if ← accept isSequenceEnd then return []
      else
        let item ← nodeWithin false false n
        let more ← bracketItems false n
        return item :: more

/-- Reads a mapping of one entry that stands for an item of a sequence in brackets. -/
def pairWithin : Nat → Reader Nat
  | 0 => malformed
  | n + 1 => do
      let id ← addNode ⟨.mapping, .mapping []⟩
      skip
      let ends := fun t => isComma t || isSequenceEnd t
      let entry ← inside do
        let key ← optionalWithin false false (fun t => isValue t || ends t) n
        let value ← if ← accept isValue then optionalWithin false false ends n else nothing
        return (key, value)
      fill id (.mapping [entry])
      return id

/-- Reads the entries of a mapping in brackets; after the first of them, commas come in front. -/
def bracketEntries (first : Bool) : Nat → Reader (List (Nat × Nat))
  | 0 => malformed
  | n + 1 => do
      if ← accept isMappingEnd then return []
      if !first then
        if !(← accept isComma) then malformed
      let ends := fun t => isComma t || isMappingEnd t
      if ← accept isKey then
        let key ← optionalWithin false false (fun t => isValue t || ends t) n
        let value ← if ← accept isValue then optionalWithin false false ends n else nothing
        let more ← bracketEntries false n
        return (key, value) :: more
      else if ← accept isMappingEnd then return []
      else
        let key ← nodeWithin false false n
        let value ← nothing
        let more ← bracketEntries false n
        return (key, value) :: more

end

/-! ## Documents -/

/-- Reads directives, with a bound for their number: the version, if seen, and the handles. -/
def directives (version : Bool) (handles : Handles) : Nat → Reader Handles
  | 0 => malformed
  | n + 1 => do
      match ← peek with
      | .directive found =>
          skip
          match found with
          | .version major =>
              if version || major ≠ 1 then malformed
              directives true handles n
          | .handle name address =>
              if (handles.lookup name).isSome then malformed
              directives version ((name, address) :: handles) n
          | .other => directives version handles n
      | _ => return handles

/-- Reads all markers of the end of a document, with a bound for their number. -/
def documentEnds : Nat → Reader Unit
  | 0 => malformed
  | n + 1 => do if ← accept isDocumentEnd then documentEnds n

/-- The number of tokens left, and some more for nodes without a token of their own. -/
def bound : Reader Nat := do return 3 * (← get).left.length + 3

/-- Reads the directives and the marker at the beginning of a document. -/
def documentStart : Reader Unit := do
  let handles ← directives false [] (← bound)
  if !(← accept isDocumentStart) then malformed
  modify fun reading => { reading with handles := handles ++ Handles.standard }

/-- Reads the content of a document after its marker. -/
def markedContent : Reader Nat := do
  if isOutside (← peek) then nothing else nodeWithin true false (← bound)

/-- Whether the text ends next. -/
def atEnd : Reader Bool := do
  match ← peek with
  | .endOfText => return true
  | _ => return false

/-- Reads a document up to its end, and makes sure that no other follows. -/
def document (content : Reader Nat) : Reader Nat := do
  let root ← content
  documentEnds (← bound)
  if !(← atEnd) then
    documentStart
    malformed
  return root

/-- Reads the document of a text, if it has one. -/
def text : Reader (Option Nat) := do
  match ← peek with
  | .directive _ | .documentStart =>
      documentStart
      return some (← document markedContent)
  | .endOfText => return none
  | _ => return some (← document (do nodeWithin true false (← bound)))

end Reader

/-- The nodes of the document that tokens write, and its root, if there is one. -/
def Graph.ofTokens (tokens : Tokens) : Except Fault (Graph × Option Nat) :=
  (fun (root, reading) => (reading.graph, root))
    <$> Reader.text.run ⟨tokens.list, tokens.fault, Graph.deepest, .standard, [], .empty⟩

end EntitySchema.Yaml
