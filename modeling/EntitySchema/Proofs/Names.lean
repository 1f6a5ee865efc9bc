/-
# `EntitySchema.Proofs.Names` — the names of a schema, as statements

Which names a schema declares, which it imports, which of them a field may have, and which types
are entities: each is said here of the definitions themselves, and each comes with the list or the
search that computes it.
-/
import EntitySchema.Proofs.Lookup

namespace EntitySchema

/-! ## Kinds of types -/

namespace TypeDefinition

variable {type : TypeDefinition}

/-- A type with the body of an object type. -/
def IsObject (type : TypeDefinition) : Prop :=
  ∃ interfaces fields, type.body = .object interfaces fields

/-- A type with the body of an interface. -/
def IsInterface (type : TypeDefinition) : Prop :=
  ∃ interfaces fields, type.body = .interface interfaces fields

/-- A type with the body of an enumeration. -/
def IsEnum (type : TypeDefinition) : Prop :=
  ∃ values, type.body = .enum values

/-- The import type: an object type, by its name. -/
def IsImportType (type : TypeDefinition) : Prop :=
  type.IsObject ∧ type.name.text = "_Schema_"

/-- An object type or an interface that carries `@entity`. -/
def IsEntity (type : TypeDefinition) : Prop :=
  (type.IsObject ∨ type.IsInterface) ∧ ∃ directive ∈ type.directives, directive.name.text = "entity"

theorem isObject_iff : type.isObject = true ↔ type.IsObject := by
  rw [isObject, IsObject]
  cases type.body <;> simp

theorem isComposite_iff : type.isComposite = true ↔ type.IsObject ∨ type.IsInterface := by
  rw [isComposite, IsObject, IsInterface]
  cases type.body <;> simp

theorem isUsable_iff :
    type.isUsable = true ↔ type.IsObject ∨ type.IsInterface ∨ type.IsEnum := by
  rw [isUsable, IsObject, IsInterface, IsEnum]
  cases type.body <;> simp

theorem isImportType_iff : type.isImportType = true ↔ type.IsImportType := by
  rw [isImportType, Bool.and_eq_true, isObject_iff, beq_iff_eq]
  exact Iff.rfl

theorem isEntity_iff : type.isEntity = true ↔ type.IsEntity := by
  rw [isEntity, Bool.and_eq_true, isComposite_iff, Directive.has_iff]
  exact Iff.rfl

theorem IsEnum.not_isObject (h : type.IsEnum) : ¬ type.IsObject := by
  obtain ⟨_, he⟩ := h
  rintro ⟨_, _, ho⟩
  cases he.symm.trans ho

theorem IsEnum.not_isEntity (h : type.IsEnum) : ¬ type.IsEntity := by
  obtain ⟨_, he⟩ := h
  rintro ⟨⟨_, _, ho⟩ | ⟨_, _, hi⟩, _⟩
  · cases he.symm.trans ho
  · cases he.symm.trans hi

theorem IsEntity.isUsable (h : type.IsEntity) : type.IsObject ∨ type.IsInterface ∨ type.IsEnum :=
  h.1.elim .inl fun hinterface => .inr (.inl hinterface)

end TypeDefinition

theorem Definition.type?_eq_some_iff {definition : Definition} {type : TypeDefinition} :
    definition.type? = some type ↔ definition = .type type := by
  constructor
  · intro h
    cases definition with
    | type t =>
        cases h
        rfl
    | typeExtension t => cases h
    | schema s => cases h
    | schemaExtension s => cases h
    | directive d => cases h
  · rintro rfl
    rfl

theorem mem_typeDefinitions {definitions : List Definition} {type : TypeDefinition} :
    type ∈ typeDefinitions definitions ↔ Definition.type type ∈ definitions := by
  simp only [typeDefinitions, List.mem_filterMap, Definition.type?_eq_some_iff, exists_eq_right]

/-! ## Local names -/

/-- The object types, interfaces and enumerations of a schema have usable names. -/
def IsLocal (definitions : List Definition) (name : String) : Prop :=
  ∃ type, Definition.type type ∈ definitions
    ∧ (type.IsObject ∨ type.IsInterface ∨ type.IsEnum) ∧ type.name.text = name

theorem mem_localNames {definitions : List Definition} {name : String} :
    name ∈ localNames definitions ↔ IsLocal definitions name := by
  simp only [localNames, List.mem_map, List.mem_filter, mem_typeDefinitions,
    TypeDefinition.isUsable_iff, and_assoc, IsLocal]

/-! ## Imported names -/

/-- `value.Shows name`: as an entry of an import's list, the value makes the name visible. -/
inductive Value.Shows : Value → String → Prop
  | string {literal : StringLiteral} : Shows (.string literal) literal.text
  | object {span : Option Span} {fields : List ObjectField} {field : ObjectField}
      {literal : StringLiteral} :
      First (·.name.text = "as") fields field → field.value = .string literal →
      Shows (.object span fields) literal.text

theorem visibleName?_eq_some_iff {value : Value} {name : String} :
    visibleName? value = some name ↔ value.Shows name := by
  constructor
  · intro h
    cases value with
    | string literal =>
        cases h
        exact .string
    | object span fields =>
        rw [visibleName?] at h
        split at h
        next literal hfind =>
          cases h
          obtain ⟨field, hfield, hvalue⟩ := Option.map_eq_some_iff.mp hfind
          exact .object (ObjectField.find?_eq_some_iff.mp hfield) hvalue
        next => cases h
    | _ => cases h
  · intro h
    cases h with
    | string => rfl
    | object hfirst hvalue =>
        rw [visibleName?, ObjectField.find?_eq_some_iff.mpr hfirst, Option.map_some, hvalue]

/-- `directive.Lists items`: the first argument `types` of the directive is the list of `items`. -/
def Directive.Lists (directive : Directive) (items : List Value) : Prop :=
  ∃ argument span, First (·.name.text = "types") directive.arguments argument
    ∧ argument.value = .list span items

theorem importedNames_of_lists {directive : Directive} {items : List Value}
    (himport : directive.name.text = "import") (hlists : directive.Lists items) :
    directive.importedNames = items.filterMap visibleName? := by
  obtain ⟨argument, span, hfirst, hvalue⟩ := hlists
  rw [Directive.importedNames, if_pos himport, Argument.find?_eq_some_iff.mpr hfirst,
    Option.map_some, hvalue]

/-- A directive imports a name if it is an import and an entry of its list shows the name. -/
def Directive.Imports (directive : Directive) (name : String) : Prop :=
  directive.name.text = "import"
    ∧ ∃ items, directive.Lists items ∧ ∃ item ∈ items, item.Shows name

theorem mem_directive_importedNames {directive : Directive} {name : String} :
    name ∈ directive.importedNames ↔ directive.Imports name := by
  constructor
  · intro h
    rw [Directive.importedNames] at h
    split at h
    next himport =>
      split at h
      next span items hfind =>
        obtain ⟨argument, hargument, hvalue⟩ := Option.map_eq_some_iff.mp hfind
        obtain ⟨item, hitem, hvisible⟩ := List.mem_filterMap.mp h
        exact ⟨himport, items,
          ⟨argument, span, Argument.find?_eq_some_iff.mp hargument, hvalue⟩,
          item, hitem, visibleName?_eq_some_iff.mp hvisible⟩
      next => cases h
    next => cases h
  · rintro ⟨himport, items, hlists, item, hitem, hshows⟩
    rw [importedNames_of_lists himport hlists]
    exact List.mem_filterMap.mpr ⟨item, hitem, visibleName?_eq_some_iff.mpr hshows⟩

/-- A schema imports a name if a directive of its import type does. -/
def Imports (definitions : List Definition) (name : String) : Prop :=
  ∃ type, Definition.type type ∈ definitions ∧ type.IsImportType
    ∧ ∃ directive ∈ type.directives, directive.Imports name

theorem mem_importedNames {definitions : List Definition} {name : String} :
    name ∈ importedNames definitions ↔ Imports definitions name := by
  simp only [importedNames, List.mem_flatMap, List.mem_filter, mem_typeDefinitions,
    TypeDefinition.isImportType_iff, mem_directive_importedNames, and_assoc, Imports]

/-- The names that a schema declares or imports. -/
def gatheredNames (definitions : List Definition) : List String :=
  localNames definitions ++ importedNames definitions

theorem mem_gatheredNames {definitions : List Definition} {name : String} :
    name ∈ gatheredNames definitions ↔ IsLocal definitions name ∨ Imports definitions name := by
  rw [gatheredNames, List.mem_append, mem_localNames, mem_importedNames]

/-! ## Names that a field may have -/

/-- A field may have a built-in scalar, a local type or an imported one. -/
def IsKnown (definitions : List Definition) (name : String) : Prop :=
  (∃ scalar : Scalar, scalar.name = name) ∨ IsLocal definitions name ∨ Imports definitions name

theorem Scalar.mem_names {name : String} :
    name ∈ Scalar.names ↔ ∃ scalar : Scalar, scalar.name = name := by
  rw [Scalar.names, List.mem_map]
  exact exists_congr fun scalar => and_iff_right (Scalar.mem_all scalar)

theorem mem_knownNames {definitions : List Definition} {name : String} :
    name ∈ knownNames definitions ↔ IsKnown definitions name := by
  rw [knownNames, List.mem_append, List.mem_append, Scalar.mem_names, mem_localNames,
    mem_importedNames, or_assoc, IsKnown]

/-! ## Entities -/

/-- An entity of the schema has this name. -/
def HasEntity (definitions : List Definition) (name : String) : Prop :=
  ∃ type, Definition.type type ∈ definitions ∧ type.IsEntity ∧ type.name.text = name

/-- The first entity with a name is the one that counts. -/
def FirstEntity (definitions : List Definition) (name : String) (target : TypeDefinition) : Prop :=
  First (fun type => type.IsEntity ∧ type.name.text = name) (typeDefinitions definitions) target

theorem HasEntity.isLocal {definitions : List Definition} {name : String}
    (h : HasEntity definitions name) : IsLocal definitions name := by
  obtain ⟨type, hmem, hentity, hname⟩ := h
  exact ⟨type, hmem, hentity.isUsable, hname⟩

theorem HasEntity.isKnown {definitions : List Definition} {name : String}
    (h : HasEntity definitions name) : IsKnown definitions name :=
  .inr (.inl h.isLocal)

theorem isEntity_and_name_iff {name : String} (type : TypeDefinition) :
    (type.isEntity && type.name.text == name) = true
      ↔ type.IsEntity ∧ type.name.text = name := by
  rw [Bool.and_eq_true, TypeDefinition.isEntity_iff, beq_iff_eq]

theorem entityNamed?_eq_some_iff {definitions : List Definition} {name : String}
    {target : TypeDefinition} :
    entityNamed? definitions name = some target ↔ FirstEntity definitions name target :=
  find?_eq_some_iff_first isEntity_and_name_iff

theorem entityNamed?_eq_none_iff {definitions : List Definition} {name : String} :
    entityNamed? definitions name = none ↔ ¬ HasEntity definitions name := by
  rw [entityNamed?, find?_eq_none_iff_forall isEntity_and_name_iff, HasEntity]
  simp only [mem_typeDefinitions, not_exists, not_and]

theorem FirstEntity.mem {definitions : List Definition} {name : String} {target : TypeDefinition}
    (h : FirstEntity definitions name target) : Definition.type target ∈ definitions :=
  mem_typeDefinitions.mp (First.mem h)

theorem FirstEntity.holds {definitions : List Definition} {name : String} {target : TypeDefinition}
    (h : FirstEntity definitions name target) : target.IsEntity ∧ target.name.text = name :=
  ⟨(First.holds h).1, (First.holds h).2⟩

theorem FirstEntity.hasEntity {definitions : List Definition} {name : String}
    {target : TypeDefinition} (h : FirstEntity definitions name target) :
    HasEntity definitions name :=
  ⟨target, h.mem, h.holds⟩

end EntitySchema
