/-
# `EntitySchema.Validation` — validating a schema

Every definition is checked by the rules for its kind, in the order of the schema; after that come
the names that collide.  Object types are entities, but for the import type; no rules look at the
other kinds of definition, nor at extensions.  Executable items have no rules at all, and a list
of items with one cannot be validated.

For collisions the local and the imported names of a schema are read from left to right.  A name is
reported where it occurs for the second time, and not again after that.
-/
import EntitySchema.Rule.Entity
import EntitySchema.Rule.Import

namespace EntitySchema

/-! ## Names that occur more than once -/

/-- The names of a list that come up a second time, given those that have come up before and those
that have been reported. -/
def repeatedFrom (seen reported : List String) : List String → List String
  | [] => []
  | name :: rest =>
      if seen.contains name then
        if reported.contains name then repeatedFrom seen reported rest
        else name :: repeatedFrom seen (name :: reported) rest
      else repeatedFrom (name :: seen) reported rest

/-- The names that occur at least twice in a list, in the order of their second occurrences. -/
def repeatedNames (names : List String) : List String := repeatedFrom [] [] names

/-- The finding about a name that is declared or imported more than once: it belongs to no single
place. -/
def collision (name : String) : Finding := ⟨Span.placeholder, name, .duplicateName name⟩

/-- The findings about the names of a schema. -/
def checkCollisions (localTypes importedTypes : List String) : List Finding :=
  (repeatedNames (localTypes ++ importedTypes)).map collision

/-! ## Definitions and items -/

/-- The findings about one definition of a schema. -/
def checkDefinition (definitions : List Definition) : Definition → List Finding
  | .type type =>
      if type.isImportType then checkImportType type.declaration
      else if type.isObject then checkEntity definitions type.declaration
      else []
  | .typeExtension _ | .schema _ | .schemaExtension _ | .directive _ => []

/-- The findings about the names of a schema. -/
def checkNames (definitions : List Definition) : List Finding :=
  checkCollisions (localNames definitions) (importedNames definitions)

/-- The findings about a schema. -/
def validate (definitions : List Definition) : List Finding :=
  definitions.flatMap (checkDefinition definitions) ++ checkNames definitions

/-- An executable item where a definition was to be validated. -/
structure NoRules where
  kind : ExecutableKind

/-- The wording of the refusal of an executable. -/
def NoRules.message (refusal : NoRules) : String :=
  "No validation rules registered for " ++
    match refusal.kind with
    | .operation => "OperationDefinitionNode"
    | .fragment => "FragmentDefinitionNode"

/-- The findings about one item among others. -/
def checkItem (items : List Item) : Item → Except NoRules (List Finding)
  | .definition definition => .ok (checkDefinition (items.filterMap Item.definition?) definition)
  | .executable executable => .error ⟨executable.kind⟩

/-- The findings about all items of a list, unless one of them is executable. -/
def validateItems (items : List Item) : Except NoRules (List Finding) := do
  let blocks ← items.mapM (checkItem items)
  return blocks.flatten ++ checkNames (items.filterMap Item.definition?)

end EntitySchema
