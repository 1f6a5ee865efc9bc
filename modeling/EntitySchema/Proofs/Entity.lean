/-
# `EntitySchema.Proofs.Entity` — what the rules ask of an entity

An entity carries `@entity` and no `@import`, and the first of its fields `id` has the type `ID!`.
Each of its fields takes no arguments, is no list with elements that may be null, has a known type
inside all wrappers, and keeps the rule on back-references.  Every check is silent exactly if its
rule is kept; since no check depends on what another one found, all of them are silent exactly if
all rules are kept.
-/
import EntitySchema.Proofs.BackReference

namespace EntitySchema

/-- What the rules ask of a field of the entity `origin`. -/
structure FieldRules (definitions : List Definition) (origin : String) (field : Field) : Prop where
  arguments : field.arguments = []
  elements : ∀ element, field.type.ListsOf element → element.Marked
  known : ∃ name, field.type.HasBase name ∧ IsKnown definitions name
  backReferences : ∀ directive ∈ field.directives, directive.name.text = "derivedFrom" →
    BackReferenceRule definitions origin field directive

/-- What the rules ask of an entity. -/
structure EntityRules (definitions : List Definition) (owner : Declaration) : Prop where
  entity : ∃ directive ∈ owner.directives, directive.name.text = "entity"
  noImport : ∀ directive ∈ owner.directives, directive.name.text ≠ "import"
  identifier : ∃ field, First (·.name.text = "id") owner.fields field ∧ field.type.IsId
  fields : ∀ field ∈ owner.fields, FieldRules definitions owner.name.text field

variable {definitions : List Definition} {owner : Declaration} {field : Field}

/-! ## Fields -/

theorem checkElements_eq_nil_iff :
    checkElements owner field = [] ↔ ∀ element, field.type.ListsOf element → element.Marked := by
  rw [← TypeExpr.nullableElement?_eq_none_iff, checkElements]
  cases field.type.nullableElement? with
  | none => exact ⟨fun _ => rfl, fun _ => rfl⟩
  | some element => exact ⟨fun h => (nomatch h), fun h => (nomatch h)⟩

theorem checkKnown_eq_nil_iff :
    checkKnown (knownNames definitions) owner field = []
      ↔ ∃ name, field.type.HasBase name ∧ IsKnown definitions name := by
  rw [checkKnown, unless_eq_nil_iff, List.contains_iff_mem, mem_knownNames]
  simp only [TypeExpr.hasBase_iff, exists_eq_left']

theorem checkNoArguments_eq_nil_iff :
    checkNoArguments owner field = [] ↔ field.arguments = [] := by
  rw [checkNoArguments, unless_eq_nil_iff, List.isEmpty_iff]

theorem checkBackReferences_eq_nil_iff :
    checkBackReferences definitions owner field = []
      ↔ ∀ directive ∈ field.directives, directive.name.text = "derivedFrom" →
          BackReferenceRule definitions owner.name.text field directive := by
  simp only [checkBackReferences, List.flatMap_eq_nil_iff, List.mem_filter, beq_iff_eq, and_imp,
    checkBackReference_eq_nil_iff]

/-- The checks of a field are silent exactly if it keeps the rules. -/
theorem checkField_eq_nil_iff :
    checkField definitions (knownNames definitions) owner field = []
      ↔ FieldRules definitions owner.name.text field := by
  rw [checkField, List.append_eq_nil_iff, List.append_eq_nil_iff, List.append_eq_nil_iff,
    checkElements_eq_nil_iff, checkKnown_eq_nil_iff, checkNoArguments_eq_nil_iff,
    checkBackReferences_eq_nil_iff]
  constructor
  · rintro ⟨⟨⟨helements, hknown⟩, harguments⟩, hback⟩
    exact ⟨harguments, helements, hknown, hback⟩
  · intro h
    exact ⟨⟨⟨h.elements, h.known⟩, h.arguments⟩, h.backReferences⟩

/-! ## Entities -/

theorem checkEntityDirective_eq_nil_iff :
    checkEntityDirective owner = []
      ↔ ∃ directive ∈ owner.directives, directive.name.text = "entity" := by
  rw [checkEntityDirective, unless_eq_nil_iff, Directive.has_iff]

theorem checkNoImport_eq_nil_iff :
    checkNoImport owner = [] ↔ ∀ directive ∈ owner.directives, directive.name.text ≠ "import" := by
  rw [checkNoImport, when_eq_nil_iff, Directive.has_iff]
  simp only [not_exists, not_and, ne_eq]

theorem checkId_eq_nil_iff :
    checkId owner = []
      ↔ ∃ field, First (·.name.text = "id") owner.fields field ∧ field.type.IsId := by
  rw [checkId]
  cases hfind : Field.find? owner.fields "id" with
  | none =>
      constructor
      · intro h
        cases h
      · rintro ⟨field, hfirst, _⟩
        exact absurd (First.holds hfirst)
          (Field.find?_eq_none_iff.mp hfind field (First.mem hfirst))
  | some field =>
      have hfirst := Field.find?_eq_some_iff.mp hfind
      simp only [unless_eq_nil_iff, TypeExpr.isIdentifier_iff]
      constructor
      · intro hid
        exact ⟨field, hfirst, hid⟩
      · rintro ⟨field', hfirst', hid⟩
        cases First.unique hfirst hfirst'
        exact hid

/-- The checks of an entity are silent exactly if it keeps the rules. -/
theorem checkEntity_eq_nil_iff :
    checkEntity definitions owner = [] ↔ EntityRules definitions owner := by
  rw [checkEntity, List.append_eq_nil_iff, List.append_eq_nil_iff, List.append_eq_nil_iff,
    checkEntityDirective_eq_nil_iff, checkId_eq_nil_iff, List.flatMap_eq_nil_iff,
    checkNoImport_eq_nil_iff]
  simp only [checkField_eq_nil_iff]
  constructor
  · rintro ⟨⟨⟨hentity, hid⟩, hfields⟩, himport⟩
    exact ⟨hentity, himport, hid, hfields⟩
  · intro h
    exact ⟨⟨⟨h.entity, h.identifier⟩, h.fields⟩, h.noImport⟩

end EntitySchema
