/-
# `EntitySchema.Rule.Entity` — entities and their fields

An entity carries `@entity`, is identified by a field `id` of type `ID!`, and imports nothing.  Each
of its fields has a known type and no arguments; the elements of a list are never null; and its
back-references lead back.  Every rule is checked whatever the others find.
-/
import EntitySchema.Rule.BackReference

namespace EntitySchema

/-- Whether a type is exactly `ID!`. -/
def TypeExpr.isIdentifier : TypeExpr → Bool
  | .nonNull _ (.named type) => type.name.text == Scalar.id.name
  | _ => false

/-- The type of the elements that may be null, of a list as it is without its outer non-null
mark. -/
def TypeExpr.nullableElement? (type : TypeExpr) : Option TypeExpr :=
  match type.dropNonNull with
  | .list _ element => if element.isNonNull then none else some element
  | .named _ | .nonNull _ _ => none

/-- A declaration without `@entity`. -/
def checkEntityDirective (owner : Declaration) : List Finding :=
  if Directive.has owner.directives "entity" then [] else [owner.finding owner.span .notAnEntity]

/-- The field `id`: missing, or of another type than `ID!`. -/
def checkId (owner : Declaration) : List Finding :=
  match Field.find? owner.fields "id" with
  | none => [owner.finding owner.span .missingId]
  | some field =>
      if field.type.isIdentifier then [] else [owner.finding field.span .idType]

/-- A list with elements that may be null. -/
def checkElements (owner : Declaration) (field : Field) : List Finding :=
  match field.type.nullableElement? with
  | none => []
  | some element =>
      [owner.finding field.span
        (.nullableElements field.name.text element.render field.type.isNonNull)]

/-- A type that is not among the names known. -/
def checkKnown (known : List String) (owner : Declaration) (field : Field) : List Finding :=
  if known.contains field.type.baseName then []
  else [owner.finding field.span (.unknownType field.name.text field.type.baseName)]

/-- A field that takes arguments. -/
def checkNoArguments (owner : Declaration) (field : Field) : List Finding :=
  if field.arguments.isEmpty then []
  else [owner.finding field.span (.fieldArguments field.name.text)]

/-- The findings about all back-references of a field. -/
def checkBackReferences (definitions : List Definition) (owner : Declaration) (field : Field) :
    List Finding :=
  (field.directives.filter (·.name.text == "derivedFrom")).flatMap
    (checkBackReference definitions owner field)

/-- The findings about a field, given the names that its type may have. -/
def checkField (definitions : List Definition) (known : List String) (owner : Declaration)
    (field : Field) : List Finding :=
  checkElements owner field ++ checkKnown known owner field ++ checkNoArguments owner field
    ++ checkBackReferences definitions owner field

/-- A declaration that imports. -/
def checkNoImport (owner : Declaration) : List Finding :=
  if Directive.has owner.directives "import" then
    [owner.finding owner.name.span .misplacedImport]
  else []

/-- The findings about an entity. -/
def checkEntity (definitions : List Definition) (owner : Declaration) : List Finding :=
  checkEntityDirective owner ++ checkId owner
    ++ owner.fields.flatMap (checkField definitions (knownNames definitions) owner)
    ++ checkNoImport owner

end EntitySchema
