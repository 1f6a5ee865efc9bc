/-
# `EntitySchema.Proofs.Relocation` — a schema at other places

`mapSpans g` gives every node of a tree the span that `g` makes of its own.  Nothing that the rules
read of a tree is a span, so all of it stays as it is: names, the types of fields and how they are
written, what imports import, and what is wrong with an import.  A schema at other places has the
same summary (`summary_mapSpans`), and each of its definitions the same declaration at other places.
-/
import EntitySchema.Document.Spans
import EntitySchema.Proofs.Summary
import EntitySchema.Rule.Import

namespace EntitySchema

variable {g : SpanMap}

@[simp] theorem Name.text_mapSpans (name : Name) : (name.mapSpans g).text = name.text := rfl

/-! ## Types of fields -/

namespace TypeExpr

variable {type : TypeExpr}

@[simp] theorem baseName_mapSpans : (type.mapSpans g).baseName = type.baseName := by
  induction type with
  | named type => rfl
  | list span element ih => exact ih
  | nonNull span inner ih => exact ih

@[simp] theorem render_mapSpans : (type.mapSpans g).render = type.render := by
  have hchars : (type.mapSpans g).renderChars = type.renderChars := by
    induction type with
    | named type => rfl
    | list span element ih => rw [mapSpans, renderChars, renderChars, ih]
    | nonNull span inner ih => rw [mapSpans, renderChars, renderChars, ih]
  rw [render, render, hchars]

@[simp] theorem isNonNull_mapSpans : (type.mapSpans g).isNonNull = type.isNonNull := by
  cases type with
  | named type => rfl
  | list span element => rfl
  | nonNull span inner => rfl

theorem nullableElement?_mapSpans :
    (type.mapSpans g).nullableElement? = type.nullableElement?.map (mapSpans g) := by
  have hdrop : (type.mapSpans g).dropNonNull = type.dropNonNull.mapSpans g := by
    cases type with
    | named type => rfl
    | list span element => rfl
    | nonNull span inner => rfl
  rw [nullableElement?, nullableElement?, hdrop]
  cases type.dropNonNull with
  | named type => rfl
  | nonNull span inner => rfl
  | list span element =>
      simp only [mapSpans, isNonNull_mapSpans]
      cases element.isNonNull with
      | true => rfl
      | false => rfl

@[simp] theorem isIdentifier_mapSpans : (type.mapSpans g).isIdentifier = type.isIdentifier := by
  cases type with
  | named type => rfl
  | list span element => rfl
  | nonNull span inner => cases inner <;> rfl

end TypeExpr

/-! ## Values and imports -/

theorem Value.mapSpansList_eq (items : List Value) :
    Value.mapSpansList g items = items.map (Value.mapSpans g) := by
  induction items with
  | nil => rfl
  | cons item rest ih => rw [Value.mapSpansList, ih, List.map_cons]

theorem ObjectField.mapSpansList_eq (fields : List ObjectField) :
    ObjectField.mapSpansList g fields = fields.map (ObjectField.mapSpans g) := by
  induction fields with
  | nil => rfl
  | cons field rest ih => rw [ObjectField.mapSpansList, ih, List.map_cons]

section Imports

variable {value : Value} {field : ObjectField} {directive : Directive}

@[simp] theorem isString_mapSpans : (value.mapSpans g).isString = value.isString := by
  cases value <;> rfl

theorem name_mapSpans : (field.mapSpans g).name = field.name.mapSpans g := by
  cases field
  rfl

theorem value_mapSpans : (field.mapSpans g).value = field.value.mapSpans g := by
  cases field
  rfl

@[simp] theorem importedFieldIssue?_mapSpans :
    importedFieldIssue? (field.mapSpans g) = importedFieldIssue? field := by
  rw [importedFieldIssue?, importedFieldIssue?, name_mapSpans, value_mapSpans, isString_mapSpans]
  rfl

@[simp] theorem sourceFieldIssue?_mapSpans :
    sourceFieldIssue? (field.mapSpans g) = sourceFieldIssue? field := by
  rw [sourceFieldIssue?, sourceFieldIssue?, name_mapSpans, value_mapSpans, isString_mapSpans]
  rfl

@[simp] theorem importedTypeIssues_mapSpans :
    importedTypeIssues (value.mapSpans g) = importedTypeIssues value := by
  cases value with
  | object span fields =>
      have hcomp : importedFieldIssue? ∘ ObjectField.mapSpans g = importedFieldIssue? :=
        funext fun _ => importedFieldIssue?_mapSpans
      simp only [Value.mapSpans, ObjectField.mapSpansList_eq, importedTypeIssues, List.length_map,
        List.filterMap_map, hcomp]
  | _ => rfl

theorem visibleName?_mapSpans : visibleName? (value.mapSpans g) = visibleName? value := by
  cases value with
  | object span fields =>
      have hfind : ObjectField.find? (fields.map (ObjectField.mapSpans g)) "as"
          = (ObjectField.find? fields "as").map (ObjectField.mapSpans g) :=
        find?_map_of_forall fun field => by rw [name_mapSpans]; rfl
      simp only [Value.mapSpans, ObjectField.mapSpansList_eq, visibleName?, hfind]
      cases ObjectField.find? fields "as" with
      | none => rfl
      | some field =>
          simp only [Option.map_some, value_mapSpans]
          cases field.value <;> rfl
  | _ => rfl

theorem argument_find?_mapSpans {arguments : List Argument} {name : String} :
    Argument.find? (arguments.map (Argument.mapSpans g)) name
      = (Argument.find? arguments name).map (Argument.mapSpans g) :=
  find?_map_of_forall fun _ => rfl

theorem importTypesIssues_mapSpans {argument : Option Argument} :
    importTypesIssues (argument.map (Argument.mapSpans g)) = importTypesIssues argument := by
  cases argument with
  | none => rfl
  | some argument =>
      simp only [Option.map_some, importTypesIssues, Argument.mapSpans]
      cases argument.value with
      | list span items =>
          simp only [Value.mapSpans, Value.mapSpansList_eq, List.flatMap_map,
            importedTypeIssues_mapSpans]
      | _ => rfl

theorem has_mapSpans {directives : List Directive} {name : String} :
    Directive.has (directives.map (Directive.mapSpans g)) name
      = Directive.has directives name := by
  have hfind : Directive.find? (directives.map (Directive.mapSpans g)) name
      = (Directive.find? directives name).map (Directive.mapSpans g) :=
    find?_map_of_forall fun _ => rfl
  rw [Directive.has, hfind, Option.isSome_map, Directive.has]

theorem directive_importedNames_mapSpans :
    (directive.mapSpans g).importedNames = directive.importedNames := by
  simp only [Directive.importedNames, Directive.mapSpans, Name.text_mapSpans,
    argument_find?_mapSpans]
  cases Argument.find? directive.arguments "types" with
  | none => rfl
  | some argument =>
      simp only [Option.map_some, Argument.mapSpans]
      cases argument.value with
      | list span items =>
          have hcomp : visibleName? ∘ Value.mapSpans g = visibleName? :=
            funext fun _ => visibleName?_mapSpans
          simp only [Value.mapSpans, Value.mapSpansList_eq, List.filterMap_map, hcomp]
      | _ => rfl

end Imports

/-! ## Types -/

/-- What the rules look at in a definition, at other places. -/
def Declaration.mapSpans (g : SpanMap) (owner : Declaration) : Declaration :=
  { span := g owner.span
    name := owner.name.mapSpans g
    directives := owner.directives.map (·.mapSpans g)
    fields := owner.fields.map (·.mapSpans g) }

theorem field_find?_mapSpans {fields : List Field} {name : String} :
    Field.find? (fields.map (Field.mapSpans g)) name
      = (Field.find? fields name).map (Field.mapSpans g) :=
  find?_map_of_forall fun _ => rfl

namespace TypeDefinition

variable {type : TypeDefinition}

@[simp] theorem isObject_mapSpans : (type.mapSpans g).isObject = type.isObject := by
  simp only [isObject, mapSpans]
  cases type.body <;> rfl

@[simp] theorem isUsable_mapSpans : (type.mapSpans g).isUsable = type.isUsable := by
  simp only [isUsable, mapSpans]
  cases type.body <;> rfl

@[simp] theorem isImportType_mapSpans : (type.mapSpans g).isImportType = type.isImportType := by
  rw [isImportType, isImportType, isObject_mapSpans]
  rfl

@[simp] theorem isEntity_mapSpans : (type.mapSpans g).isEntity = type.isEntity := by
  have hcomposite : (type.mapSpans g).isComposite = type.isComposite := by
    simp only [isComposite, mapSpans]
    cases type.body <;> rfl
  rw [isEntity, isEntity, hcomposite, mapSpans, has_mapSpans]

theorem fields_mapSpans : (type.mapSpans g).fields = type.fields.map (Field.mapSpans g) := by
  simp only [fields, mapSpans]
  cases type.body with
  | inputObject inputs =>
      simp only [TypeBody.mapSpans, TypeBody.fields, List.map_map]
      rfl
  | _ => rfl

theorem declaration_mapSpans :
    (type.mapSpans g).declaration = type.declaration.mapSpans g := by
  rw [declaration, fields_mapSpans]
  rfl

theorem fieldBases_mapSpans : (type.mapSpans g).fieldBases = type.fieldBases := by
  rw [fieldBases, fieldBases, fields_mapSpans, List.map_map]
  refine List.map_congr_left fun field _ => ?_
  exact congrArg (field.name.text, ·) TypeExpr.baseName_mapSpans

end TypeDefinition

/-! ## Schemas -/

section Schemas

variable {definitions : List Definition}

theorem typeDefinitions_mapSpans :
    typeDefinitions (definitions.map (Definition.mapSpans g))
      = (typeDefinitions definitions).map (TypeDefinition.mapSpans g) := by
  have htype (definition : Definition) :
      (definition.mapSpans g).type? = definition.type?.map (TypeDefinition.mapSpans g) := by
    cases definition <;> rfl
  rw [typeDefinitions, typeDefinitions, List.filterMap_map, List.map_filterMap]
  exact congrArg (List.filterMap · definitions) (funext htype)

theorem localNames_mapSpans :
    localNames (definitions.map (Definition.mapSpans g)) = localNames definitions := by
  rw [localNames, localNames, typeDefinitions_mapSpans,
    filter_map_of_forall fun _ => TypeDefinition.isUsable_mapSpans, List.map_map]
  rfl

theorem importedNames_mapSpans :
    importedNames (definitions.map (Definition.mapSpans g)) = importedNames definitions := by
  rw [importedNames, importedNames, typeDefinitions_mapSpans,
    filter_map_of_forall fun _ => TypeDefinition.isImportType_mapSpans, List.flatMap_map]
  refine congrArg (List.flatMap · _) (funext fun type => ?_)
  rw [TypeDefinition.mapSpans, List.flatMap_map]
  exact congrArg (List.flatMap · _) (funext fun _ => directive_importedNames_mapSpans)

theorem gatheredNames_mapSpans :
    gatheredNames (definitions.map (Definition.mapSpans g)) = gatheredNames definitions := by
  rw [gatheredNames, gatheredNames, localNames_mapSpans, importedNames_mapSpans]

theorem entityNamed?_mapSpans (name : String) :
    entityNamed? (definitions.map (Definition.mapSpans g)) name
      = (entityNamed? definitions name).map (TypeDefinition.mapSpans g) := by
  rw [entityNamed?, entityNamed?, typeDefinitions_mapSpans]
  exact find?_map_of_forall fun type => by rw [TypeDefinition.isEntity_mapSpans]; rfl

/-- A definition sees the same of its siblings wherever they stand. -/
theorem summary_mapSpans :
    summary (definitions.map (Definition.mapSpans g)) = summary definitions := by
  have hentity (name : String) :
      (entityNamed? (definitions.map (Definition.mapSpans g)) name).map TypeDefinition.fieldBases
        = (entityNamed? definitions name).map TypeDefinition.fieldBases := by
    rw [entityNamed?_mapSpans, Option.map_map]
    exact congrArg (Option.map · _) (funext fun _ => TypeDefinition.fieldBases_mapSpans)
  rw [summary, summary, gatheredNames_mapSpans, funext hentity]

end Schemas

end EntitySchema
