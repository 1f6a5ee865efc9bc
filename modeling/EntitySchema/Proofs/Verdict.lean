/-
# `EntitySchema.Proofs.Verdict` — validation is silent exactly on well-formed schemas

A schema is well-formed if the import type keeps the rules on imports, every other object type keeps
the rules on entities, and no name is declared or imported twice.  Neither other kinds of types nor
extensions, root types and directives have any rules.  `WellFormed` says this of the definitions,
without a check; `validate_eq_nil_iff` says that no finding is reported exactly then: what is
reported is a fault (soundness), and no fault goes unreported (completeness).

The run over items differs from the run over definitions only in that it can refuse; on items that
are all definitions it does not.
-/
import EntitySchema.Proofs.DistinctNames
import EntitySchema.Proofs.Entity
import EntitySchema.Proofs.Import
import EntitySchema.Validation

namespace EntitySchema

/-- What the rules ask of a schema. -/
structure WellFormed (definitions : List Definition) : Prop where
  entities : ∀ type, Definition.type type ∈ definitions → type.IsObject →
    type.name.text ≠ "_Schema_" → EntityRules definitions type.declaration
  importTypes : ∀ type, Definition.type type ∈ definitions → type.IsImportType →
    ImportTypeRules type.declaration
  names : DistinctNames definitions

variable {definitions : List Definition}

/-! ## One definition -/

theorem checkDefinition_type_eq_nil_iff {type : TypeDefinition} :
    checkDefinition definitions (.type type) = []
      ↔ (type.IsObject → type.name.text ≠ "_Schema_" → EntityRules definitions type.declaration)
        ∧ (type.IsImportType → ImportTypeRules type.declaration) := by
  rw [checkDefinition]
  by_cases himport : type.IsImportType
  · rw [if_pos (TypeDefinition.isImportType_iff.mpr himport), checkImportType_eq_nil_iff]
    constructor
    · intro h
      exact ⟨fun _ hname => absurd himport.2 hname, fun _ => h⟩
    · intro h
      exact h.2 himport
  · rw [if_neg (fun h => himport (TypeDefinition.isImportType_iff.mp h))]
    by_cases hobject : type.IsObject
    · rw [if_pos (TypeDefinition.isObject_iff.mpr hobject), checkEntity_eq_nil_iff]
      constructor
      · intro h
        exact ⟨fun _ _ => h, fun h => absurd h himport⟩
      · intro h
        exact h.1 hobject (fun hname => himport ⟨hobject, hname⟩)
    · rw [if_neg (fun h => hobject (TypeDefinition.isObject_iff.mp h))]
      exact ⟨fun _ => ⟨fun h => absurd h hobject, fun h => absurd h himport⟩, fun _ => rfl⟩

/-! ## The whole schema -/

theorem checkNames_eq_map :
    checkNames definitions = (repeatedNames (gatheredNames definitions)).map collision := rfl

theorem validate_eq_nil_iff : validate definitions = [] ↔ WellFormed definitions := by
  rw [validate, List.append_eq_nil_iff, List.flatMap_eq_nil_iff, checkNames,
    checkCollisions_eq_nil_iff]
  constructor
  · rintro ⟨hdefinitions, hnames⟩
    have htype {type} (hmem : Definition.type type ∈ definitions) :=
      checkDefinition_type_eq_nil_iff.mp (hdefinitions _ hmem)
    exact ⟨fun _ hmem => (htype hmem).1, fun _ hmem => (htype hmem).2, hnames⟩
  · intro h
    refine ⟨?_, h.names⟩
    intro definition hmem
    cases definition with
    | type type =>
        exact checkDefinition_type_eq_nil_iff.mpr ⟨h.entities type hmem, h.importTypes type hmem⟩
    | typeExtension _ => rfl
    | schema _ => rfl
    | schemaExtension _ => rfl
    | directive _ => rfl

/-- What the checks of an entity find is found in the schema. -/
theorem mem_validate_of_entity {type : TypeDefinition} {finding : Finding}
    (hmem : Definition.type type ∈ definitions) (hobject : type.IsObject)
    (hname : type.name.text ≠ "_Schema_")
    (hfound : finding ∈ checkEntity definitions type.declaration) :
    finding ∈ validate definitions := by
  refine List.mem_append_left _ (List.mem_flatMap.mpr ⟨.type type, hmem, ?_⟩)
  have himport : ¬ type.isImportType = true :=
    fun h => hname (TypeDefinition.isImportType_iff.mp h).2
  rw [checkDefinition, if_neg himport, if_pos (TypeDefinition.isObject_iff.mpr hobject)]
  exact hfound

/-- In a well-formed schema the import type is no entity. -/
theorem WellFormed.not_isEntity_of_isImportType (h : WellFormed definitions) {type : TypeDefinition}
    (hmem : Definition.type type ∈ definitions) (himport : type.IsImportType) :
    ¬ type.IsEntity := by
  rintro ⟨_, directive, hdirective, hname⟩
  have himportName := ((h.importTypes type hmem himport).directives directive hdirective).1
  exact absurd (hname.symm.trans himportName) (by decide)

/-! ## Items -/

theorem filterMap_definition? (definitions : List Definition) :
    (definitions.map Item.definition).filterMap Item.definition? = definitions := by
  rw [List.filterMap_map]
  exact List.filterMap_some

theorem mapM_checkItem (items : List Item) (definitions : List Definition) :
    (definitions.map Item.definition).mapM (checkItem items)
      = .ok (definitions.map (checkDefinition (items.filterMap Item.definition?))) := by
  induction definitions with
  | nil => rfl
  | cons definition rest ih =>
      rw [List.map_cons, List.mapM_cons, ih]
      rfl

/-- Items that are all definitions are never refused. -/
theorem validateItems_definitions (definitions : List Definition) :
    validateItems (definitions.map Item.definition) = .ok (validate definitions) := by
  rw [validateItems, mapM_checkItem, filterMap_definition?, validate, List.flatMap_def]
  rfl

/-- **The verdict is sound and complete**: on definitions the run succeeds without a finding exactly
if the schema is well-formed. -/
theorem validateItems_eq_ok_nil_iff (definitions : List Definition) :
    validateItems (definitions.map Item.definition) = .ok [] ↔ WellFormed definitions := by
  rw [validateItems_definitions, Except.ok.injEq, validate_eq_nil_iff]

end EntitySchema
