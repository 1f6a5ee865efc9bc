/-
# `EntitySchema.Symbols` — the names that a schema knows

The fields of an entity may have any built-in, local or imported type.  Local are the object types,
interfaces and enumerations that the schema defines.  Imported are the names that the `@import`
directives of the import type make visible.  Entities, which back-references lead to, are the
object types and interfaces that carry `@entity`.
-/
import EntitySchema.Document.Basic
import EntitySchema.Finding

namespace EntitySchema

namespace TypeDefinition

/-- Whether the type is an object type. -/
def isObject (type : TypeDefinition) : Bool :=
  match type.body with
  | .object _ _ => true
  | .scalar | .interface _ _ | .union _ | .enum _ | .inputObject _ => false

/-- Whether the type has fields that a query can ask for. -/
def isComposite (type : TypeDefinition) : Bool :=
  match type.body with
  | .object _ _ | .interface _ _ => true
  | .scalar | .union _ | .enum _ | .inputObject _ => false

/-- Whether the name of the type may be the type of a field without an import. -/
def isUsable (type : TypeDefinition) : Bool :=
  match type.body with
  | .object _ _ | .interface _ _ | .enum _ => true
  | .scalar | .union _ | .inputObject _ => false

/-- Whether the type is the one that carries the imports. -/
def isImportType (type : TypeDefinition) : Bool :=
  type.isObject && type.name.text == importTypeName

/-- Whether back-references can lead to the type. -/
def isEntity (type : TypeDefinition) : Bool :=
  type.isComposite && Directive.has type.directives "entity"

end TypeDefinition

/-- The type that a definition defines. -/
def Definition.type? : Definition → Option TypeDefinition
  | .type t => some t
  | .typeExtension _ | .schema _ | .schemaExtension _ | .directive _ => none

/-- The types that definitions define. -/
def typeDefinitions (definitions : List Definition) : List TypeDefinition :=
  definitions.filterMap Definition.type?

/-- The name that an entry of an import's list makes visible: a string itself, an object the string
under `as`; other entries make none visible. -/
def visibleName? : Value → Option String
  | .string literal => some literal.text
  | .object _ fields =>
      match (ObjectField.find? fields "as").map ObjectField.value with
      | some (.string literal) => some literal.text
      | _ => none
  | _ => none

/-- The names that a directive imports. -/
def Directive.importedNames (directive : Directive) : List String :=
  if directive.name.text = "import" then
    match (Argument.find? directive.arguments "types").map Argument.value with
    | some (.list _ items) => items.filterMap visibleName?
    | _ => []
  else []

/-- The names of the local types, in the order of their definitions. -/
def localNames (definitions : List Definition) : List String :=
  ((typeDefinitions definitions).filter (·.isUsable)).map (·.name.text)

/-- The names that the import types import, in the order of the text. -/
def importedNames (definitions : List Definition) : List String :=
  ((typeDefinitions definitions).filter (·.isImportType)).flatMap fun type =>
    type.directives.flatMap Directive.importedNames

/-- The names that a field's type may have. -/
def knownNames (definitions : List Definition) : List String :=
  Scalar.names ++ localNames definitions ++ importedNames definitions

/-- The first entity with a name. -/
def entityNamed? (definitions : List Definition) (name : String) : Option TypeDefinition :=
  (typeDefinitions definitions).find? fun type => type.isEntity && type.name.text == name

end EntitySchema
