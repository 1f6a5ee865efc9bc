/-
# `EntitySchema.Rule.Import` — the import type

The import type has no fields and carries imports only, such as

    type _Schema_
      @import(types: ["Token", { name: "Pool", as: "UniswapPool" }], from: { name: "uniswap" })
      @import(types: ["Account"], from: { id: "Qm…" })

An import says what it imports, as a list of names and of names with an alias, and where from, by a
name or by an identifier.  Only its first argument of each name counts.
-/
import EntitySchema.Rule.BackReference

namespace EntitySchema

/-- Whether a value is a string literal. -/
def Value.isString : Value → Bool
  | .string _ => true
  | _ => false

/-- What is wrong with a field of an imported type with an alias. -/
def importedFieldIssue? (field : ObjectField) : Option Issue :=
  if field.name.text = "name" ∨ field.name.text = "as" then
    if field.value.isString then none else some .importedTypeValue
  else some (.importedTypeField field.name.text)

/-- What is wrong with one entry of the list of imported types. -/
def importedTypeIssues : Value → List Issue
  | .string _ => []
  | .object _ fields =>
      if fields.length = 2 then fields.filterMap importedFieldIssue? else [.importedTypeShape]
  | _ => [.importedTypeShape]

/-- What is wrong with what an import imports. -/
def importTypesIssues : Option Argument → List Issue
  | none => [.importTypesMissing]
  | some argument =>
      match argument.value with
      | .list _ items => items.flatMap importedTypeIssues
      | _ => [.importTypesValue]

/-- What is wrong with the only field of the source of an import. -/
def sourceFieldIssue? (field : ObjectField) : Option Issue :=
  if field.name.text = "name" ∨ field.name.text = "id" then
    if field.value.isString then none else some .importSourceFieldValue
  else some .importSourceField

/-- The findings about the source of an import: those about its field at the name of the field, the
others at the name of the directive. -/
def checkImportSource (owner : Declaration) (directive : Directive) :
    Option Argument → List Finding
  | none => [owner.finding directive.name.span .importSourceMissing]
  | some argument =>
      match argument.value with
      | .object _ [field] =>
          (sourceFieldIssue? field).toList.map (owner.finding field.name.span)
      | .object _ _ => [owner.finding directive.name.span .importSourceSize]
      | _ => [owner.finding directive.name.span .importSourceValue]

/-- The findings about one import: first on what it imports, then on its source. -/
def checkImport (owner : Declaration) (directive : Directive) : List Finding :=
  (importTypesIssues (Argument.find? directive.arguments "types")).map
      (owner.finding directive.name.span)
    ++ checkImportSource owner directive (Argument.find? directive.arguments "from")

/-- The findings about a directive on the import type. -/
def checkImportTypeDirective (owner : Declaration) (directive : Directive) : List Finding :=
  if directive.name.text = "import" then checkImport owner directive
  else [owner.finding directive.name.span .importTypeDirective]

/-- Fields on the import type. -/
def checkNoFields (owner : Declaration) : List Finding :=
  if owner.fields.isEmpty then []
  else [owner.finding owner.name.span (.importTypeFields owner.name.text)]

/-- The findings about the import type. -/
def checkImportType (owner : Declaration) : List Finding :=
  checkNoFields owner ++ owner.directives.flatMap (checkImportTypeDirective owner)

end EntitySchema
