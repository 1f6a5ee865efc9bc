/-
# `EntitySchema.Proofs.Faults` — everything that can be found in a definition

What the checks of a definition can find is said here once: at which node, what is wrong, and when.
Each kind of part has its faults, with one constructor for each way to be at fault.  Which fault of
a back-reference it is, or of what an import lists, is left to the functions that tell these apart:
they do not differ in their node.

A finding comes from a check exactly if it reports such a fault (`mem_checkDefinition_iff`).  So
what holds of all findings is shown by cases on the faults, and no check is opened again.
-/
import EntitySchema.Proofs.Verdict

namespace EntitySchema

/-! ## The faults -/

/-- What can be wrong with a field of the entity `origin`. -/
inductive FieldFault (definitions : List Definition) (origin : String) (field : Field) :
    Option Span → Issue → Prop
  | elements {element : TypeExpr} :
      field.type.ListsOf element → ¬ element.Marked →
      FieldFault definitions origin field field.span
        (.nullableElements field.name.text element.render field.type.isNonNull)
  | unknown :
      ¬ IsKnown definitions field.type.baseName →
      FieldFault definitions origin field field.span
        (.unknownType field.name.text field.type.baseName)
  | arguments :
      field.arguments ≠ [] →
      FieldFault definitions origin field field.span (.fieldArguments field.name.text)
  | backReference {directive : Directive} {issue : Issue} :
      directive ∈ field.directives → directive.name.text = "derivedFrom" →
      backReferenceIssue? definitions origin field directive = some issue →
      FieldFault definitions origin field directive.span issue

/-- What can be wrong with an entity. -/
inductive EntityFault (definitions : List Definition) (owner : Declaration) :
    Option Span → Issue → Prop
  | noEntity :
      (∀ directive ∈ owner.directives, directive.name.text ≠ "entity") →
      EntityFault definitions owner owner.span .notAnEntity
  | noId :
      (∀ field ∈ owner.fields, field.name.text ≠ "id") →
      EntityFault definitions owner owner.span .missingId
  | idType {field : Field} :
      First (·.name.text = "id") owner.fields field → ¬ field.type.IsId →
      EntityFault definitions owner field.span .idType
  | field {field : Field} {span : Option Span} {issue : Issue} :
      field ∈ owner.fields → FieldFault definitions owner.name.text field span issue →
      EntityFault definitions owner span issue
  | imports {directive : Directive} :
      directive ∈ owner.directives → directive.name.text = "import" →
      EntityFault definitions owner owner.name.span .misplacedImport

/-- What can be wrong with the source of an import. -/
inductive ImportSourceFault (directive : Directive) : Option Argument → Option Span → Issue → Prop
  | missing : ImportSourceFault directive none directive.name.span .importSourceMissing
  | value {argument : Argument} :
      (∀ span fields, argument.value ≠ .object span fields) →
      ImportSourceFault directive (some argument) directive.name.span .importSourceValue
  | size {argument : Argument} {span : Option Span} {fields : List ObjectField} :
      argument.value = .object span fields → fields.length ≠ 1 →
      ImportSourceFault directive (some argument) directive.name.span .importSourceSize
  | field {argument : Argument} {span : Option Span} {field : ObjectField} {issue : Issue} :
      argument.value = .object span [field] → sourceFieldIssue? field = some issue →
      ImportSourceFault directive (some argument) field.name.span issue

/-- What can be wrong with the import type. -/
inductive ImportTypeFault (owner : Declaration) : Option Span → Issue → Prop
  | fields :
      owner.fields ≠ [] →
      ImportTypeFault owner owner.name.span (.importTypeFields owner.name.text)
  | directive {directive : Directive} :
      directive ∈ owner.directives → directive.name.text ≠ "import" →
      ImportTypeFault owner directive.name.span .importTypeDirective
  | types {directive : Directive} {issue : Issue} :
      directive ∈ owner.directives → directive.name.text = "import" →
      issue ∈ importTypesIssues (Argument.find? directive.arguments "types") →
      ImportTypeFault owner directive.name.span issue
  | source {directive : Directive} {span : Option Span} {issue : Issue} :
      directive ∈ owner.directives → directive.name.text = "import" →
      ImportSourceFault directive (Argument.find? directive.arguments "from") span issue →
      ImportTypeFault owner span issue

/-- What can be wrong with a type: as an entity, or as the import type. -/
inductive TypeFault (definitions : List Definition) (type : TypeDefinition) :
    Option Span → Issue → Prop
  | entity {span : Option Span} {issue : Issue} :
      type.IsObject → type.name.text ≠ "_Schema_" →
      EntityFault definitions type.declaration span issue → TypeFault definitions type span issue
  | importType {span : Option Span} {issue : Issue} :
      type.IsImportType → ImportTypeFault type.declaration span issue →
      TypeFault definitions type span issue

/-- The findings of `owner` that report one of the faults. -/
def Declaration.Finds (owner : Declaration) (fault : Option Span → Issue → Prop)
    (finding : Finding) : Prop :=
  ∃ span issue, fault span issue ∧ finding = owner.finding span issue

variable {definitions : List Definition} {owner : Declaration} {field : Field} {finding : Finding}

theorem Declaration.Finds.mono {fault fault' : Option Span → Issue → Prop}
    (h : owner.Finds fault finding) (hmono : ∀ span issue, fault span issue → fault' span issue) :
    owner.Finds fault' finding := by
  obtain ⟨span, issue, hfault, rfl⟩ := h
  exact ⟨span, issue, hmono span issue hfault, rfl⟩

/-! ## Fields -/

theorem mem_checkElements_iff :
    finding ∈ checkElements owner field
      ↔ ∃ element, (field.type.ListsOf element ∧ ¬ element.Marked)
        ∧ finding = owner.finding field.span
          (.nullableElements field.name.text element.render field.type.isNonNull) := by
  simp only [← TypeExpr.nullableElement?_eq_some_iff, checkElements]
  cases field.type.nullableElement? with
  | none => simp
  | some element => simp

theorem mem_checkKnown_iff :
    finding ∈ checkKnown (knownNames definitions) owner field
      ↔ ¬ IsKnown definitions field.type.baseName
        ∧ finding = owner.finding field.span
          (.unknownType field.name.text field.type.baseName) := by
  rw [checkKnown, List.mem_ite_nil_left, List.contains_iff_mem, mem_knownNames,
    List.mem_singleton]

theorem mem_checkNoArguments_iff :
    finding ∈ checkNoArguments owner field
      ↔ field.arguments ≠ []
        ∧ finding = owner.finding field.span (.fieldArguments field.name.text) := by
  rw [checkNoArguments, List.mem_ite_nil_left, List.isEmpty_iff, List.mem_singleton]

theorem mem_checkBackReferences_iff :
    finding ∈ checkBackReferences definitions owner field
      ↔ ∃ directive ∈ field.directives, directive.name.text = "derivedFrom"
        ∧ ∃ issue, backReferenceIssue? definitions owner.name.text field directive = some issue
          ∧ finding = owner.finding directive.span issue := by
  simp only [checkBackReferences, List.mem_flatMap, List.mem_filter, beq_iff_eq, and_assoc,
    checkBackReference, List.mem_map, Option.mem_toList, eq_comm (a := finding)]

theorem mem_checkField_iff :
    finding ∈ checkField definitions (knownNames definitions) owner field
      ↔ owner.Finds (FieldFault definitions owner.name.text field) finding := by
  simp only [checkField, List.mem_append, mem_checkElements_iff, mem_checkKnown_iff,
    mem_checkNoArguments_iff, mem_checkBackReferences_iff]
  constructor
  · rintro (((⟨element, ⟨hlists, hmarked⟩, rfl⟩ | ⟨hunknown, rfl⟩) | ⟨harguments, rfl⟩)
      | ⟨directive, hdirective, hderived, issue, hissue, rfl⟩)
    · exact ⟨_, _, .elements hlists hmarked, rfl⟩
    · exact ⟨_, _, .unknown hunknown, rfl⟩
    · exact ⟨_, _, .arguments harguments, rfl⟩
    · exact ⟨_, _, .backReference hdirective hderived hissue, rfl⟩
  · rintro ⟨span, issue, hfault, rfl⟩
    cases hfault with
    | elements hlists hmarked => exact .inl (.inl (.inl ⟨_, ⟨hlists, hmarked⟩, rfl⟩))
    | unknown hunknown => exact .inl (.inl (.inr ⟨hunknown, rfl⟩))
    | arguments harguments => exact .inl (.inr ⟨harguments, rfl⟩)
    | backReference hdirective hderived hissue =>
        exact .inr ⟨_, hdirective, hderived, _, hissue, rfl⟩

/-! ## Entities -/

theorem mem_checkEntityDirective_iff :
    finding ∈ checkEntityDirective owner
      ↔ (∀ directive ∈ owner.directives, directive.name.text ≠ "entity")
        ∧ finding = owner.finding owner.span .notAnEntity := by
  rw [checkEntityDirective, List.mem_ite_nil_left, Directive.has_iff, List.mem_singleton]
  simp only [not_exists, not_and, ne_eq]

theorem mem_checkId_iff :
    finding ∈ checkId owner
      ↔ (∀ field ∈ owner.fields, field.name.text ≠ "id")
          ∧ finding = owner.finding owner.span .missingId
        ∨ ∃ field, First (·.name.text = "id") owner.fields field ∧ ¬ field.type.IsId
          ∧ finding = owner.finding field.span .idType := by
  rw [checkId]
  cases hfind : Field.find? owner.fields "id" with
  | none =>
      have hnone := Field.find?_eq_none_iff.mp hfind
      constructor
      · intro h
        exact .inl ⟨hnone, List.mem_singleton.mp h⟩
      · rintro (⟨_, rfl⟩ | ⟨field, hfirst, _⟩)
        · exact List.mem_singleton_self _
        · exact absurd (First.holds hfirst) (hnone field (First.mem hfirst))
  | some field =>
      have hfirst := Field.find?_eq_some_iff.mp hfind
      simp only [List.mem_ite_nil_left, TypeExpr.isIdentifier_iff, List.mem_singleton]
      constructor
      · rintro ⟨htype, rfl⟩
        exact .inr ⟨field, hfirst, htype, rfl⟩
      · rintro (⟨hnone, _⟩ | ⟨field', hfirst', htype, rfl⟩)
        · exact absurd (First.holds hfirst) (hnone field (First.mem hfirst))
        · cases First.unique hfirst hfirst'
          exact ⟨htype, rfl⟩

theorem mem_checkNoImport_iff :
    finding ∈ checkNoImport owner
      ↔ (∃ directive ∈ owner.directives, directive.name.text = "import")
        ∧ finding = owner.finding owner.name.span .misplacedImport := by
  rw [checkNoImport, List.mem_ite_nil_right, Directive.has_iff, List.mem_singleton]

theorem mem_checkEntity_iff :
    finding ∈ checkEntity definitions owner
      ↔ owner.Finds (EntityFault definitions owner) finding := by
  simp only [checkEntity, List.mem_append, List.mem_flatMap, mem_checkEntityDirective_iff,
    mem_checkId_iff, mem_checkField_iff, mem_checkNoImport_iff]
  constructor
  · rintro (((⟨hnone, rfl⟩ | ⟨hnone, rfl⟩ | ⟨field, hfirst, htype, rfl⟩)
      | ⟨field, hfield, hfinds⟩) | ⟨⟨directive, hdirective, himport⟩, rfl⟩)
    · exact ⟨_, _, .noEntity hnone, rfl⟩
    · exact ⟨_, _, .noId hnone, rfl⟩
    · exact ⟨_, _, .idType hfirst htype, rfl⟩
    · exact hfinds.mono fun _ _ => .field hfield
    · exact ⟨_, _, .imports hdirective himport, rfl⟩
  · rintro ⟨span, issue, hfault, rfl⟩
    cases hfault with
    | noEntity hnone => exact .inl (.inl (.inl ⟨hnone, rfl⟩))
    | noId hnone => exact .inl (.inl (.inr (.inl ⟨hnone, rfl⟩)))
    | idType hfirst htype => exact .inl (.inl (.inr (.inr ⟨_, hfirst, htype, rfl⟩)))
    | field hfield hfault => exact .inl (.inr ⟨_, hfield, _, _, hfault, rfl⟩)
    | imports hdirective himport => exact .inr ⟨⟨_, hdirective, himport⟩, rfl⟩

/-! ## The import type -/

section Imports

variable {directive : Directive}

theorem mem_checkImportSource_iff {argument : Option Argument} :
    finding ∈ checkImportSource owner directive argument
      ↔ owner.Finds (ImportSourceFault directive argument) finding := by
  constructor
  · intro h
    cases argument with
    | none => exact ⟨_, _, .missing, List.mem_singleton.mp h⟩
    | some argument =>
        rw [checkImportSource] at h
        split at h
        next span field hvalue =>
          obtain ⟨issue, hissue, rfl⟩ := List.mem_map.mp h
          exact ⟨_, _, .field hvalue (Option.mem_toList.mp hissue), rfl⟩
        next span fields hfields hvalue =>
          have hlength : fields.length ≠ 1 := fun hlength => by
            obtain ⟨field, rfl⟩ := List.length_eq_one_iff.mp hlength
            exact hfields field rfl
          exact ⟨_, _, .size hvalue hlength, List.mem_singleton.mp h⟩
        next hvalue => exact ⟨_, _, .value hvalue, List.mem_singleton.mp h⟩
  · rintro ⟨span, issue, hfault, rfl⟩
    cases hfault with
    | missing => exact List.mem_singleton_self _
    | value hvalue =>
        rw [checkImportSource]
        split
        next hobject => exact absurd hobject (hvalue _ _)
        next hobject => exact absurd hobject (hvalue _ _)
        next => exact List.mem_singleton_self _
    | @size argument span fields hvalue hlength =>
        rw [checkImportSource, hvalue]
        rcases fields with _ | ⟨field, _ | ⟨other, rest⟩⟩
        · exact List.mem_singleton_self _
        · exact absurd rfl hlength
        · exact List.mem_singleton_self _
    | field hvalue hissue =>
        rw [checkImportSource, hvalue]
        exact List.mem_map.mpr ⟨_, Option.mem_toList.mpr hissue, rfl⟩

theorem mem_checkImport_iff :
    finding ∈ checkImport owner directive
      ↔ (∃ issue ∈ importTypesIssues (Argument.find? directive.arguments "types"),
            finding = owner.finding directive.name.span issue)
          ∨ owner.Finds (ImportSourceFault directive (Argument.find? directive.arguments "from"))
              finding := by
  simp only [checkImport, List.mem_append, List.mem_map, mem_checkImportSource_iff,
    eq_comm (a := finding)]

theorem mem_checkImportType_iff :
    finding ∈ checkImportType owner ↔ owner.Finds (ImportTypeFault owner) finding := by
  rw [checkImportType, List.mem_append, checkNoFields, List.mem_ite_nil_left, List.isEmpty_iff,
    List.mem_singleton, List.mem_flatMap]
  simp only [checkImportTypeDirective]
  constructor
  · rintro (⟨hfields, rfl⟩ | ⟨directive, hdirective, h⟩)
    · exact ⟨_, _, .fields hfields, rfl⟩
    · split at h
      next himport =>
        rcases mem_checkImport_iff.mp h with ⟨issue, hissue, rfl⟩ | hsource
        · exact ⟨_, _, .types hdirective himport hissue, rfl⟩
        · exact hsource.mono fun _ _ => .source hdirective himport
      next himport =>
        exact ⟨_, _, .directive hdirective himport, List.mem_singleton.mp h⟩
  · rintro ⟨span, issue, hfault, rfl⟩
    cases hfault with
    | fields hfields => exact .inl ⟨hfields, rfl⟩
    | directive hdirective himport =>
        refine .inr ⟨_, hdirective, ?_⟩
        rw [if_neg himport]
        exact List.mem_singleton_self _
    | types hdirective himport hissue =>
        refine .inr ⟨_, hdirective, ?_⟩
        rw [if_pos himport]
        exact mem_checkImport_iff.mpr (.inl ⟨_, hissue, rfl⟩)
    | source hdirective himport hsource =>
        refine .inr ⟨_, hdirective, ?_⟩
        rw [if_pos himport]
        exact mem_checkImport_iff.mpr (.inr ⟨_, _, hsource, rfl⟩)

end Imports

/-! ## Definitions -/

theorem checkDefinition_of_isImportType {type : TypeDefinition} (himport : type.IsImportType) :
    checkDefinition definitions (.type type) = checkImportType type.declaration := by
  rw [checkDefinition, if_pos (TypeDefinition.isImportType_iff.mpr himport)]

theorem checkDefinition_of_isObject {type : TypeDefinition} (hobject : type.IsObject)
    (hname : type.name.text ≠ "_Schema_") :
    checkDefinition definitions (.type type) = checkEntity definitions type.declaration := by
  have himport : ¬ type.isImportType = true :=
    fun h => hname (TypeDefinition.isImportType_iff.mp h).2
  rw [checkDefinition, if_neg himport, if_pos (TypeDefinition.isObject_iff.mpr hobject)]

theorem checkDefinition_of_not_isObject {type : TypeDefinition} (hobject : ¬ type.IsObject) :
    checkDefinition definitions (.type type) = [] := by
  have himport : ¬ type.isImportType = true :=
    fun h => hobject (TypeDefinition.isImportType_iff.mp h).1
  rw [checkDefinition, if_neg himport, if_neg (mt TypeDefinition.isObject_iff.mp hobject)]

/-- **What is found in a definition** are the faults of the type that it defines. -/
theorem mem_checkDefinition_iff {definition : Definition} :
    finding ∈ checkDefinition definitions definition
      ↔ ∃ type, definition = .type type
        ∧ type.declaration.Finds (TypeFault definitions type) finding := by
  constructor
  · intro h
    cases definition with
    | type type =>
        refine ⟨type, rfl, ?_⟩
        by_cases himport : type.IsImportType
        · rw [checkDefinition_of_isImportType himport, mem_checkImportType_iff] at h
          exact h.mono fun _ _ => .importType himport
        · by_cases hobject : type.IsObject
          · have hname : type.name.text ≠ "_Schema_" := fun hname => himport ⟨hobject, hname⟩
            rw [checkDefinition_of_isObject hobject hname, mem_checkEntity_iff] at h
            exact h.mono fun _ _ => .entity hobject hname
          · rw [checkDefinition_of_not_isObject hobject] at h
            cases h
    | typeExtension _ => cases h
    | schema _ => cases h
    | schemaExtension _ => cases h
    | directive _ => cases h
  · rintro ⟨type, rfl, span, issue, hfault, rfl⟩
    cases hfault with
    | entity hobject hname hfault =>
        rw [checkDefinition_of_isObject hobject hname, mem_checkEntity_iff]
        exact ⟨span, issue, hfault, rfl⟩
    | importType himport hfault =>
        rw [checkDefinition_of_isImportType himport, mem_checkImportType_iff]
        exact ⟨span, issue, hfault, rfl⟩

/-- What is found in a schema is found in one of its types, or about a name that it repeats. -/
theorem mem_validate_iff :
    finding ∈ validate definitions
      ↔ (∃ type, Definition.type type ∈ definitions
          ∧ type.declaration.Finds (TypeFault definitions type) finding)
        ∨ ∃ name, List.Duplicate name (gatheredNames definitions) ∧ finding = collision name := by
  rw [validate, List.mem_append, List.mem_flatMap, checkNames_eq_map, List.mem_map]
  simp only [mem_checkDefinition_iff, mem_repeatedNames, eq_comm (a := finding)]
  refine or_congr_left ?_
  constructor
  · rintro ⟨_, hmem, type, rfl, hfinds⟩
    exact ⟨type, hmem, hfinds⟩
  · rintro ⟨type, hmem, hfinds⟩
    exact ⟨_, hmem, type, rfl, hfinds⟩

end EntitySchema
