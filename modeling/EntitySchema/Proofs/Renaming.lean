/-
# `EntitySchema.Proofs.Renaming` — a schema under other names

Type names occur in three places of a schema: as the names of its definitions, inside the types of
fields, and in the lists of imports, where a string stands for the type that it imports and the
string under `as` for the name that the type gets here.  `Definition.rename` puts other names in all
of these places, and leaves everything else as it is: the names of fields, arguments and directives,
the members of unions, and all spans.

A renaming keeps distinct names distinct, and it keeps the names of the import type and of the
built-in scalars.  Under a renaming the names of a schema become their other names, in the same
order (`gatheredNames_rename`), and every name leads to the entity it led to before, under its other
name (`entityNamed?_rename`).
-/
import EntitySchema.Proofs.Summary
import EntitySchema.Rule.Import
import Mathlib.Logic.Function.Defs

namespace EntitySchema

/-! ## Other names -/

section Rename

variable (r : String → String)

def Name.rename (name : Name) : Name := { name with text := r name.text }

def NamedType.rename (type : NamedType) : NamedType := { type with name := type.name.rename r }

def TypeExpr.rename : TypeExpr → TypeExpr
  | .named type => .named (type.rename r)
  | .list span element => .list span element.rename
  | .nonNull span inner => .nonNull span inner.rename

/-- A string that stands for a type; other values stand for none. -/
def Value.renameString : Value → Value
  | .string literal => .string { literal with text := r literal.text }
  | value => value

/-- A field of an imported type: the string under `as` is the name of a type. -/
def ObjectField.renameAlias : ObjectField → ObjectField
  | .mk span name value =>
      .mk span name (if name.text = "as" then value.renameString r else value)

/-- An entry of an import's list. -/
def Value.renameEntry : Value → Value
  | .object span fields => .object span (fields.map (ObjectField.renameAlias r))
  | value => value.renameString r

/-- The value of an argument, if it is a list of entries. -/
def Value.renameEntries : Value → Value
  | .list span items => .list span (items.map (Value.renameEntry r))
  | value => value

/-- An argument of an import: under `types` are the entries. -/
def Argument.renameEntries (argument : Argument) : Argument :=
  if argument.name.text = "types" then { argument with value := argument.value.renameEntries r }
  else argument

def Directive.renameImports (directive : Directive) : Directive :=
  if directive.name.text = "import" then
    { directive with arguments := directive.arguments.map (Argument.renameEntries r) }
  else directive

/-- An argument that a field or a directive takes. -/
def InputValue.renameImports (input : InputValue) : InputValue :=
  { input with directives := input.directives.map (Directive.renameImports r) }

/-- A field of an input object. -/
def InputValue.rename (input : InputValue) : InputValue :=
  { input.renameImports r with type := input.type.rename r }

def Field.rename (field : Field) : Field :=
  { field with
    arguments := field.arguments.map (InputValue.renameImports r)
    type := field.type.rename r
    directives := field.directives.map (Directive.renameImports r) }

def EnumValue.renameImports (value : EnumValue) : EnumValue :=
  { value with directives := value.directives.map (Directive.renameImports r) }

def TypeBody.rename : TypeBody → TypeBody
  | .scalar => .scalar
  | .object interfaces fields => .object interfaces (fields.map (Field.rename r))
  | .interface interfaces fields => .interface interfaces (fields.map (Field.rename r))
  | .union members => .union members
  | .enum values => .enum (values.map (EnumValue.renameImports r))
  | .inputObject fields => .inputObject (fields.map (InputValue.rename r))

def TypeDefinition.rename (type : TypeDefinition) : TypeDefinition :=
  { type with
    name := type.name.rename r
    directives := type.directives.map (Directive.renameImports r)
    body := type.body.rename r }

def SchemaDefinition.renameImports (schema : SchemaDefinition) : SchemaDefinition :=
  { schema with directives := schema.directives.map (Directive.renameImports r) }

def DirectiveDefinition.rename (definition : DirectiveDefinition) : DirectiveDefinition :=
  { definition with
    name := definition.name.rename r
    arguments := definition.arguments.map (InputValue.renameImports r)
    directives := definition.directives.map (Directive.renameImports r) }

def Definition.rename : Definition → Definition
  | .type t => .type (t.rename r)
  | .typeExtension t => .typeExtension (t.rename r)
  | .schema s => .schema (s.renameImports r)
  | .schemaExtension s => .schemaExtension (s.renameImports r)
  | .directive d => .directive (d.rename r)

/-- What the rules look at in a type. -/
def Declaration.rename (owner : Declaration) : Declaration :=
  { owner with
    name := owner.name.rename r
    directives := owner.directives.map (Directive.renameImports r)
    fields := owner.fields.map (Field.rename r) }

end Rename

/-- Other names for types: distinct ones for distinct ones, and the same ones for the built-in
scalars and the import type. -/
structure IsRenaming (r : String → String) : Prop where
  injective : Function.Injective r
  scalar : ∀ scalar : Scalar, r scalar.name = scalar.name
  importType : r importTypeName = importTypeName

variable {r : String → String}

/-- A name that the renaming keeps is given to nothing else. -/
theorem IsRenaming.eq_iff_of_kept (h : IsRenaming r) {name kept : String} (hkept : r kept = kept) :
    r name = kept ↔ name = kept := by
  constructor
  · intro hname
    exact h.injective (hname.trans hkept.symm)
  · rintro rfl
    exact hkept

/-! ## Types of fields -/

namespace TypeExpr

variable {type : TypeExpr}

@[simp] theorem baseName_rename : (type.rename r).baseName = r type.baseName := by
  induction type with
  | named type => rfl
  | list span element ih => exact ih
  | nonNull span inner ih => exact ih

@[simp] theorem isNonNull_rename : (type.rename r).isNonNull = type.isNonNull := by
  cases type with
  | named type => rfl
  | list span element => rfl
  | nonNull span inner => rfl

theorem nullableElement?_rename :
    (type.rename r).nullableElement? = type.nullableElement?.map (rename r) := by
  have hdrop : (type.rename r).dropNonNull = type.dropNonNull.rename r := by
    cases type with
    | named type => rfl
    | list span element => rfl
    | nonNull span inner => rfl
  rw [nullableElement?, nullableElement?, hdrop]
  cases type.dropNonNull with
  | named type => rfl
  | nonNull span inner => rfl
  | list span element =>
      simp only [rename, isNonNull_rename]
      cases element.isNonNull with
      | true => rfl
      | false => rfl

theorem isIdentifier_rename (h : IsRenaming r) :
    (type.rename r).isIdentifier = type.isIdentifier := by
  rw [Bool.eq_iff_iff, isIdentifier_iff, isIdentifier_iff]
  have hid {name : String} : r name = "ID" ↔ name = "ID" := h.eq_iff_of_kept (h.scalar .id)
  constructor
  · intro htype
    match type, htype with
    | .nonNull _ (.named _), .mk hname => exact .mk (hid.mp hname)
  · intro htype
    cases htype with | mk hname => exact .mk (hid.mpr hname)

end TypeExpr

/-! ## Imports -/

section Imports

variable {value : Value} {field : ObjectField} {argument : Argument} {directive : Directive}

@[simp] theorem isString_renameString : (value.renameString r).isString = value.isString := by
  cases value <;> rfl

@[simp] theorem name_renameAlias : (field.renameAlias r).name = field.name := by
  cases field
  rfl

theorem value_renameAlias :
    (field.renameAlias r).value
      = if field.name.text = "as" then field.value.renameString r else field.value := by
  cases field
  rfl

@[simp] theorem importedFieldIssue?_renameAlias :
    importedFieldIssue? (field.renameAlias r) = importedFieldIssue? field := by
  have hstring : (field.renameAlias r).value.isString = field.value.isString := by
    rw [value_renameAlias]
    split
    next => exact isString_renameString
    next => rfl
  rw [importedFieldIssue?, importedFieldIssue?, name_renameAlias, hstring]

/-- The rules say the same of an entry under other names. -/
@[simp] theorem importedTypeIssues_renameEntry :
    importedTypeIssues (value.renameEntry r) = importedTypeIssues value := by
  cases value with
  | object span fields =>
      have hcomp : importedFieldIssue? ∘ ObjectField.renameAlias r = importedFieldIssue? :=
        funext fun _ => importedFieldIssue?_renameAlias
      simp only [Value.renameEntry, importedTypeIssues, List.length_map, List.filterMap_map, hcomp]
  | _ => rfl

/-- An entry shows the other name of what it showed. -/
theorem visibleName?_renameEntry :
    visibleName? (value.renameEntry r) = (visibleName? value).map r := by
  cases value with
  | object span fields =>
      have hfind : ObjectField.find? (fields.map (ObjectField.renameAlias r)) "as"
          = (ObjectField.find? fields "as").map (ObjectField.renameAlias r) :=
        find?_map_of_forall fun field => by rw [name_renameAlias]
      simp only [Value.renameEntry, visibleName?, hfind]
      cases has : ObjectField.find? fields "as" with
      | none => rfl
      | some field =>
          have hname : field.name.text = "as" := ObjectField.name_of_find? has
          simp only [Option.map_some, value_renameAlias, if_pos hname]
          cases field.value <;> rfl
  | _ => rfl

@[simp] theorem name_renameEntries : (argument.renameEntries r).name = argument.name := by
  rw [Argument.renameEntries]
  split
  next => rfl
  next => rfl

theorem argument_find?_renameEntries {arguments : List Argument} {name : String} :
    Argument.find? (arguments.map (Argument.renameEntries r)) name
      = (Argument.find? arguments name).map (Argument.renameEntries r) :=
  find?_map_of_forall fun argument => by rw [name_renameEntries]

@[simp] theorem importTypesIssues_renameEntries {arguments : List Argument} :
    importTypesIssues (Argument.find? (arguments.map (Argument.renameEntries r)) "types")
      = importTypesIssues (Argument.find? arguments "types") := by
  rw [argument_find?_renameEntries]
  cases hfind : Argument.find? arguments "types" with
  | none => rfl
  | some argument =>
      have hname : argument.name.text = "types" := Argument.name_of_find? hfind
      simp only [Option.map_some, importTypesIssues, Argument.renameEntries, if_pos hname]
      cases argument.value with
      | list span items => simp [Value.renameEntries, List.flatMap_map]
      | _ => rfl

/-- What an import says of its source is not about names of types. -/
@[simp] theorem find?_from_renameEntries {arguments : List Argument} :
    Argument.find? (arguments.map (Argument.renameEntries r)) "from"
      = Argument.find? arguments "from" := by
  rw [argument_find?_renameEntries]
  cases hfind : Argument.find? arguments "from" with
  | none => rfl
  | some argument =>
      have hname : argument.name.text = "from" := Argument.name_of_find? hfind
      have htypes : ¬ argument.name.text = "types" := by
        rw [hname]
        decide
      rw [Option.map_some, Argument.renameEntries, if_neg htypes]

@[simp] theorem name_renameImports : (directive.renameImports r).name = directive.name := by
  rw [Directive.renameImports]
  split
  next => rfl
  next => rfl

theorem has_renameImports {directives : List Directive} {name : String} :
    Directive.has (directives.map (Directive.renameImports r)) name
      = Directive.has directives name := by
  rw [Directive.has, Directive.find?, find?_map_of_forall fun directive => by
    rw [name_renameImports], Option.isSome_map]
  rfl

/-- A directive imports the other names of what it imported. -/
theorem directive_importedNames_rename :
    (directive.renameImports r).importedNames = directive.importedNames.map r := by
  by_cases himport : directive.name.text = "import"
  · rw [Directive.importedNames, name_renameImports, if_pos himport, Directive.importedNames,
      if_pos himport, Directive.renameImports, if_pos himport, argument_find?_renameEntries]
    cases hfind : Argument.find? directive.arguments "types" with
    | none => rfl
    | some argument =>
        have hname : argument.name.text = "types" := Argument.name_of_find? hfind
        simp only [Option.map_some, Argument.renameEntries, if_pos hname]
        cases argument.value with
        | list span items =>
            simp only [Value.renameEntries, List.filterMap_map, List.map_filterMap]
            exact congrArg (items.filterMap ·) (funext fun _ => visibleName?_renameEntry)
        | _ => rfl
  · rw [Directive.renameImports, if_neg himport, Directive.importedNames, if_neg himport]
    rfl

end Imports

/-! ## Types -/

namespace TypeDefinition

variable {type : TypeDefinition}

@[simp] theorem isObject_rename : (type.rename r).isObject = type.isObject := by
  simp only [isObject, rename]
  cases type.body <;> rfl

@[simp] theorem isComposite_rename : (type.rename r).isComposite = type.isComposite := by
  simp only [isComposite, rename]
  cases type.body <;> rfl

@[simp] theorem isUsable_rename : (type.rename r).isUsable = type.isUsable := by
  simp only [isUsable, rename]
  cases type.body <;> rfl

@[simp] theorem isEntity_rename : (type.rename r).isEntity = type.isEntity := by
  rw [isEntity, isComposite_rename, rename, has_renameImports]
  rfl

@[simp] theorem isImportType_rename (h : IsRenaming r) :
    (type.rename r).isImportType = type.isImportType := by
  rw [Bool.eq_iff_iff, isImportType, isImportType, isObject_rename, Bool.and_eq_true,
    Bool.and_eq_true, beq_iff_eq, beq_iff_eq]
  exact and_congr_right fun _ => h.eq_iff_of_kept h.importType

theorem fields_rename : (type.rename r).fields = type.fields.map (Field.rename r) := by
  simp only [fields, rename]
  cases type.body with
  | inputObject inputs =>
      simp only [TypeBody.rename, TypeBody.fields, List.map_map]
      rfl
  | _ => rfl

theorem declaration_rename : (type.rename r).declaration = type.declaration.rename r := by
  rw [declaration, fields_rename]
  rfl

end TypeDefinition

theorem field_find?_rename {fields : List Field} {name : String} :
    Field.find? (fields.map (Field.rename r)) name
      = (Field.find? fields name).map (Field.rename r) :=
  find?_map_of_forall fun _ => rfl

theorem lookup_fieldBases_rename {type : TypeDefinition} {source : String} :
    (type.rename r).fieldBases.lookup source = (type.fieldBases.lookup source).map r := by
  rw [lookup_fieldBases, lookup_fieldBases, TypeDefinition.fields_rename, field_find?_rename,
    Option.map_map, Option.map_map]
  exact congrArg (Option.map · _) (funext fun field => TypeExpr.baseName_rename)

/-! ## Schemas -/

section Schemas

variable {definitions : List Definition} {name : String}

theorem typeDefinitions_rename :
    typeDefinitions (definitions.map (Definition.rename r))
      = (typeDefinitions definitions).map (TypeDefinition.rename r) := by
  have htype (definition : Definition) :
      (definition.rename r).type? = definition.type?.map (TypeDefinition.rename r) := by
    cases definition <;> rfl
  rw [typeDefinitions, typeDefinitions, List.filterMap_map, List.map_filterMap]
  exact congrArg (List.filterMap · definitions) (funext htype)

theorem localNames_rename :
    localNames (definitions.map (Definition.rename r)) = (localNames definitions).map r := by
  rw [localNames, localNames, typeDefinitions_rename,
    filter_map_of_forall fun _ => TypeDefinition.isUsable_rename, List.map_map, List.map_map]
  rfl

theorem importedNames_rename (h : IsRenaming r) :
    importedNames (definitions.map (Definition.rename r)) = (importedNames definitions).map r := by
  rw [importedNames, importedNames, typeDefinitions_rename,
    filter_map_of_forall fun _ => TypeDefinition.isImportType_rename h, List.flatMap_map,
    List.map_flatMap]
  refine congrArg (List.flatMap · _) (funext fun type => ?_)
  rw [TypeDefinition.rename, List.flatMap_map, List.map_flatMap]
  exact congrArg (List.flatMap · _) (funext fun _ => directive_importedNames_rename)

theorem gatheredNames_rename (h : IsRenaming r) :
    gatheredNames (definitions.map (Definition.rename r)) = (gatheredNames definitions).map r := by
  rw [gatheredNames, localNames_rename, importedNames_rename h, gatheredNames, List.map_append]

theorem knownNames_rename (h : IsRenaming r) :
    knownNames (definitions.map (Definition.rename r)) = (knownNames definitions).map r := by
  have hscalars : Scalar.names.map r = Scalar.names := by
    rw [Scalar.names, List.map_map]
    exact List.map_congr_left fun scalar _ => h.scalar scalar
  rw [knownNames, localNames_rename, importedNames_rename h, knownNames, List.map_append,
    List.map_append, hscalars]

/-- A name leads to the entity it led to, under its other name. -/
theorem entityNamed?_rename (h : IsRenaming r) :
    entityNamed? (definitions.map (Definition.rename r)) (r name)
      = (entityNamed? definitions name).map (TypeDefinition.rename r) := by
  rw [entityNamed?, entityNamed?, typeDefinitions_rename, List.find?_map]
  have htest (type : TypeDefinition) :
      ((type.rename r).isEntity && (type.rename r).name.text == r name)
        = (type.isEntity && type.name.text == name) := by
    rw [Bool.eq_iff_iff, Bool.and_eq_true, Bool.and_eq_true, beq_iff_eq, beq_iff_eq,
      TypeDefinition.isEntity_rename]
    exact and_congr_right fun _ => h.injective.eq_iff
  exact congrArg (fun test => ((typeDefinitions definitions).find? test).map _) (funext htest)

end Schemas

end EntitySchema
