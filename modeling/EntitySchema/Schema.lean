/-
# `EntitySchema.Schema` — from a file to the definitions of a schema

A schema is a document without executable items.  Reading one from a file takes three steps, each
with faults of its own: getting the bytes, reading them as text, and reading the text as a
document.
-/
import EntitySchema.Document.Parser
import EntitySchema.Files.Tree
import EntitySchema.Text.Utf8
import EntitySchema.Validation

namespace EntitySchema

/-- Why there is no schema to validate. -/
inductive SchemaError where
  /-- The file cannot be read. -/
  | unreadable (path : Path) (fault : FileFault)
  /-- The bytes of the file are no text. -/
  | undecodable (fault : Text.Utf8.Fault)
  /-- The text is no document. -/
  | malformed (text : List Char) (error : SyntaxError)
  /-- The document has executable items. -/
  | executable

/-- The wording of a schema error. -/
def SchemaError.message : SchemaError → String
  | .unreadable path fault => "Failed to load GraphQL schema: " ++ fault.message path
  | .undecodable fault => "Failed to load GraphQL schema: " ++ fault.message
  | .malformed text error => "Invalid GraphQL schema: " ++ error.message text
  | .executable =>
      "Invalid GraphQL schema: executable definitions are not allowed in a schema document"

namespace Schema

/-- The definitions of the schema that a text writes. -/
def parse (text : List Char) : Except SchemaError (List Definition) :=
  match Document.parse text with
  | .error error => .error (.malformed text error)
  | .ok document =>
      if document.executables.isEmpty then .ok document.definitions else .error .executable

/-- The text that the bytes of a file write, its line ends folded. -/
def decode (bytes : List UInt8) : Except SchemaError (List Char) :=
  (Text.ofBytes bytes).mapError .undecodable

variable {m : Type → Type} [Monad m]

/-- The text of the schema at a path. -/
def load (files : Files m) (path : Path) : m (Except SchemaError (List Char)) := do
  match ← files.read path with
  | .error fault => return .error (.unreadable path fault)
  | .ok bytes => return decode bytes

/-- The findings about the schema at a path. -/
def validateFile (files : Files m) (path : Path) : m (Except SchemaError (List Finding)) := do
  match ← load files path with
  | .error error => return .error error
  | .ok text => return (parse text).map validate

end Schema

end EntitySchema
