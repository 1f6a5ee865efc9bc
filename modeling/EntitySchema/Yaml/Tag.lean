/-
# `EntitySchema.Yaml.Tag` — what a node is

The tags that the format defines share the beginning of their addresses.  A tag that it does not
define says nothing here, and a node with such a tag has no value.
-/
import EntitySchema.Yaml.Token

namespace EntitySchema.Yaml

/-- What a node is said to be. -/
inductive Tag where
  | null
  | bool
  | int
  | float
  | timestamp
  | string
  /-- Bytes, written in letters. -/
  | binary
  /-- The key whose value is merged into its mapping. -/
  | merge
  /-- The key of a default value. -/
  | default
  | sequence
  | mapping
  | set
  /-- A sequence of mappings with one entry each. -/
  | pairs
  | unknown
  deriving DecidableEq

namespace Tag

/-- The beginning of the addresses of all tags that the format defines. -/
def standard : String := "tag:yaml.org,2002:"

/-- The tag that an address stands for. -/
def ofAddress (address : String) : Tag :=
  let names :=
    [ ("null", null), ("bool", bool), ("int", int), ("float", float), ("timestamp", timestamp),
      ("str", string), ("binary", binary), ("merge", merge), ("value", default), ("seq", sequence),
      ("map", mapping), ("set", set), ("omap", pairs), ("pairs", pairs) ]
  ((names.find? fun (name, _) => standard ++ name == address).map (·.2)).getD unknown

/-- Whether a node of this tag can be changed later, and so be no key of a mapping. -/
def isCollection : Tag → Bool
  | sequence | mapping | set | pairs => true
  | null | bool | int | float | timestamp | string | binary | merge | default | unknown => false

end Tag

/-- The address that leaves it to the node itself what it is. -/
def plainAddress : String := "!"

/-- The beginnings of addresses that handles stand for. -/
abbrev Handles := List (String × String)

/-- The handles that need no directive. -/
def Handles.standard : Handles := [("!", "!"), ("!!", Tag.standard)]

/-- The address that a tag stands for; nothing if its handle has no meaning. -/
def TagText.address? (handles : Handles) (tag : TagText) : Option String :=
  match tag.handle with
  | none => some tag.address
  | some name => (handles.lookup name).map (· ++ tag.address)

end EntitySchema.Yaml
