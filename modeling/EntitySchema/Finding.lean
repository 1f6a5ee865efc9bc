/-
# `EntitySchema.Finding` — what validation reports

A finding says where, about which type and what.  What is wrong is an `Issue`, one constructor for
each kind of fault with the names its wording needs; `Issue.message` is the only place with the
wording.
-/
import EntitySchema.Suggestion
import EntitySchema.Text.Lines

namespace EntitySchema

/-- The type that by convention carries the imports of a schema, and nothing else. -/
def importTypeName : String := "_Schema_"

/-- What can be wrong with a schema that is well-formed. -/
inductive Issue where
  /-- A type is no entity. -/
  | notAnEntity
  /-- An entity has no identifier. -/
  | missingId
  /-- The identifier of an entity has another type than `ID!`. -/
  | idType
  /-- A field is a list with elements of a type that admits null. -/
  | nullableElements (field element : String) (nonNull : Bool)
  /-- A field has a type that nothing declares. -/
  | unknownType (field type : String)
  /-- A field takes arguments. -/
  | fieldArguments (field : String)
  /-- A back-reference has other arguments than the field it derives from. -/
  | derivedFromArguments (field : String)
  /-- A back-reference names its field by something else than a string. -/
  | derivedFromValue (field : String)
  /-- A back-reference names a field that the target does not have. -/
  | derivedFromMissing (field source target : String)
  /-- A back-reference names a field that does not lead back. -/
  | derivedFromType (field source target origin : String)
  /-- An import stands on an ordinary type. -/
  | misplacedImport
  /-- The import type has fields. -/
  | importTypeFields (type : String)
  /-- The import type carries another directive than an import. -/
  | importTypeDirective
  /-- An import does not say what it imports. -/
  | importTypesMissing
  /-- What an import imports is not a list. -/
  | importTypesValue
  /-- An imported type is neither a name nor a name with an alias. -/
  | importedTypeShape
  /-- An imported type has a field of another name. -/
  | importedTypeField (field : String)
  /-- An imported type has a field whose value is no string. -/
  | importedTypeValue
  /-- An import does not say where it imports from. -/
  | importSourceMissing
  /-- The source of an import is not an object. -/
  | importSourceValue
  /-- The source of an import has not exactly one field. -/
  | importSourceSize
  /-- The source of an import has a field of another name. -/
  | importSourceField
  /-- The source of an import has a field whose value is no string. -/
  | importSourceFieldValue
  /-- A type name is declared or imported more than once. -/
  | duplicateName (name : String)

namespace Issue

/-- The wording that all issues of a field begin with. -/
def ofField (field rest : String) : String := "Field '" ++ field ++ "':" ++ rest

/-- The hint at a built-in scalar, where the table has one for a name. -/
def hint (name : String) : String :=
  match Suggestion.suggest name with
  | some scalar => " Did you mean '" ++ scalar.name ++ "'?"
  | none => ""

/-- The type of a list field as it is and as it must be. -/
def listType (element : String) (nonNull : Bool) : String :=
  "[" ++ element ++ "]" ++ if nonNull then "!" else ""

/-- The wording of an issue. -/
def message : Issue → String
  | .notAnEntity => "Defined without @entity directive"
  | .missingId => "Missing field: id: ID!"
  | .idType => ofField "id" " Entity IDs must be of type ID!"
  | .nullableElements field element nonNull =>
      ofField field ("\nField has type " ++ listType element nonNull ++ " but\nmust have type "
        ++ listType (element ++ "!") nonNull
        ++ "\n\nReason: Lists with null elements are not supported.")
  | .unknownType field type => ofField field (" Unknown type '" ++ type ++ "'." ++ hint type)
  | .fieldArguments field => ofField field " Field arguments are not supported."
  | .derivedFromArguments field =>
      ofField field " @derivedFrom directive must have a 'field' argument"
  | .derivedFromValue field =>
      ofField field " Value of the @derivedFrom 'field' argument must be a string"
  | .derivedFromMissing field source target =>
      ofField field (" @derivedFrom field '" ++ source ++ "' does not exist on type '" ++ target
        ++ "'")
  | .derivedFromType field source target origin =>
      ofField field (" @derivedFrom field '" ++ source ++ "' on type '" ++ target
        ++ "' must have the type '" ++ origin ++ "', '" ++ origin ++ "!' or '[" ++ origin ++ "!]!'")
  | .misplacedImport => "@import directive only allowed on '" ++ importTypeName ++ "' type"
  | .importTypeFields type => type ++ " type is not allowed any fields by convention"
  | .importTypeDirective => importTypeName ++ " directives only allows @import directives"
  | .importTypesMissing => "@import argument 'types' must be specified"
  | .importTypesValue => "@import argument 'types' must be an list"
  | .importedTypeShape =>
      "Import must be one of \"Name\" or \x7b name: \"Name\", as: \"Alias\" \x7d"
  | .importedTypeField field =>
      "@import field '" ++ field ++ "' invalid, may only be one of: [name, as]"
  | .importedTypeValue => "@import fields [name, as] must be strings"
  | .importSourceMissing => "@import argument 'from' must be specified"
  | .importSourceValue => "@import argument 'from' must be an object"
  | .importSourceSize => "@import argument 'from' must have an 'id' or 'name' field"
  | .importSourceField =>
      "@import argument 'from' must be one of \x7b name: \"Name\" \x7d or \x7b id: \"ID\" \x7d"
  | .importSourceFieldValue =>
      "@import argument 'from' must be one of \x7b name: \"Name\" \x7d or \x7b id: \"ID\" \x7d"
        ++ " with string values"
  | .duplicateName name => "Type '" ++ name ++ "' is defined more than once"

end Issue

/-- A fault of a schema: its place, the type it belongs to, and what is wrong. -/
structure Finding where
  location : Span
  entity : String
  issue : Issue

/-- The wording of a finding. -/
def Finding.message (finding : Finding) : String := finding.issue.message

end EntitySchema
