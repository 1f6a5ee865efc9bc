/-
# `EntitySchema.Yaml.Token` — the tokens of a YAML text

Besides what is written, the tokens show where blocks begin and end, which the text shows by its
indentation only, and put a key in front of what a colon makes a key afterwards.
-/
import EntitySchema.Text.CodePoint

namespace EntitySchema.Yaml

/-- A tag as it is written: an address in full, or the rest of one after a handle. -/
structure TagText where
  handle : Option String
  address : String

/-- A line of directions in front of a document. -/
inductive Directive where
  /-- The version of the format. -/
  | version (major : Nat)
  /-- A handle and the beginning of the addresses that it stands for. -/
  | handle (name address : String)
  /-- A line that says nothing here. -/
  | other

/-- A token. -/
inductive Token where
  | endOfText
  | directive (directive : Directive)
  | documentStart
  | documentEnd
  | blockSequenceStart
  | blockMappingStart
  | blockEnd
  | flowSequenceStart
  | flowSequenceEnd
  | flowMappingStart
  | flowMappingEnd
  | flowEntry
  | blockEntry
  | key
  | value
  | alias (name : String)
  | anchor (name : String)
  | tag (tag : TagText)
  | scalar (plain : Bool) (text : Text.Str)

end EntitySchema.Yaml
