/-
# `EntitySchema.Proofs.Summary` — what a definition sees of its siblings

A definition is checked among the others of its schema, but it sees little of them.  It sees which
names they declare or import, and, for each name, whether there is an entity of this name and what
the fields of the first one are called, each with the name inside all wrappers of its type.
`summary` is just that; schemas with the same summary have the same findings about any one
definition, be it one of theirs or not.

Scalars, unions, input objects, directives, root types and extensions leave no trace in the
summary, nor in the names that must not collide, and have no rules of their own.  So these
bystanders can be put anywhere between the definitions of a schema, and what is found stays exactly
the same (`checkItem_eq_of_summary_eq`).
-/
import EntitySchema.Proofs.Bare
import EntitySchema.Proofs.Verdict
import Mathlib.Data.Set.Defs

namespace EntitySchema

/-- The names of the fields of a type, each with the name inside all wrappers of its type. -/
def TypeDefinition.fieldBases (type : TypeDefinition) : List (String × String) :=
  type.fields.map fun field => (field.name.text, field.type.baseName)

/-- What a schema shows to a definition. -/
structure Summary where
  /-- The names that are declared or imported. -/
  names : Set String
  /-- The fields of the entity with a name, if there is one. -/
  entities : String → Option (List (String × String))

/-- The summary of a schema. -/
def summary (definitions : List Definition) : Summary where
  names := {name | name ∈ gatheredNames definitions}
  entities name := (entityNamed? definitions name).map TypeDefinition.fieldBases

variable {definitions left right : List Definition} {origin source : String}

/-! ## The way back -/

theorem lookup_fieldBases {type : TypeDefinition} :
    type.fieldBases.lookup source = (Field.find? type.fields source).map (·.type.baseName) := by
  rw [TypeDefinition.fieldBases, Field.find?]
  induction type.fields with
  | nil => rfl
  | cons field rest ih =>
      rw [List.map_cons, List.lookup_cons, List.find?_cons, BEq.comm (a := source)]
      cases field.name.text == source with
      | true => rfl
      | false => exact ih

/-- Of the target only its name and `fieldBases` count, and of the other entities only their
names. -/
theorem sourceIssue?_eq {field : String} {target : TypeDefinition} :
    sourceIssue? definitions origin field source target
      = match target.fieldBases.lookup source with
        | none => some (.derivedFromMissing field source target.name.text)
        | some base =>
            if (entityNamed? definitions base).isSome ∧ base = origin then none
            else some (.derivedFromType field source target.name.text origin) := by
  rw [sourceIssue?, lookup_fieldBases]
  cases Field.find? target.fields source with
  | none => rfl
  | some back =>
      simp only [Option.map_some]
      cases hentity : entityNamed? definitions back.type.baseName with
      | none => simp
      | some entity =>
          have hname : entity.name.text = back.type.baseName :=
            (entityNamed?_eq_some_iff.mp hentity).holds.2
          simp [hname]

theorem sourceIssue?_congr {field : String} {target target' : TypeDefinition}
    (hname : target.name.text = target'.name.text)
    (hfields : target.fieldBases = target'.fieldBases)
    (hentities : ∀ name, (entityNamed? left name).isSome = (entityNamed? right name).isSome) :
    sourceIssue? left origin field source target
      = sourceIssue? right origin field source target' := by
  simp only [sourceIssue?_eq, hname, hfields, hentities]

/-! ## What a check reads -/

theorem mem_knownNames_iff_summary {name : String} :
    name ∈ knownNames definitions ↔ name ∈ Scalar.names ∨ name ∈ (summary definitions).names := by
  rw [knownNames, List.append_assoc, List.mem_append]
  exact Iff.rfl

theorem checkKnown_congr {known known' : List String} {owner : Declaration} {field : Field}
    (h : ∀ name, name ∈ known ↔ name ∈ known') :
    checkKnown known owner field = checkKnown known' owner field := by
  have hcontains : known.contains field.type.baseName = known'.contains field.type.baseName := by
    rw [Bool.eq_iff_iff, List.contains_iff_mem, List.contains_iff_mem, h]
  rw [checkKnown, checkKnown, hcontains]

theorem backReferenceIssue?_congr {field : Field} {directive : Directive}
    (h : (summary left).entities = (summary right).entities) :
    backReferenceIssue? left origin field directive
      = backReferenceIssue? right origin field directive := by
  have hentity (name : String) : (entityNamed? left name).map TypeDefinition.fieldBases
      = (entityNamed? right name).map TypeDefinition.fieldBases := congrFun h name
  have hisSome (name : String) :
      (entityNamed? left name).isSome = (entityNamed? right name).isSome := by
    rw [← Option.isSome_map, hentity, Option.isSome_map]
  -- Only a directive of the right form makes the check look at the schema.
  simp only [backReferenceIssue?]
  split
  next argument =>
    split
    next =>
      split
      next literal =>
        have hbase := hentity field.type.baseName
        cases hleft : entityNamed? left field.type.baseName with
        | none =>
            rw [hleft] at hbase
            rw [Option.map_eq_none_iff.mp hbase.symm]
        | some target =>
            rw [hleft] at hbase
            obtain ⟨target', hright, hfields⟩ := Option.map_eq_some_iff.mp hbase.symm
            have hname : target.name.text = target'.name.text :=
              (entityNamed?_eq_some_iff.mp hleft).holds.2.trans
                (entityNamed?_eq_some_iff.mp hright).holds.2.symm
            rw [hright]
            exact sourceIssue?_congr hname hfields.symm hisSome
      next => rfl
    next => rfl
  next => rfl

theorem checkField_congr {owner : Declaration} {field : Field} (h : summary left = summary right) :
    checkField left (knownNames left) owner field
      = checkField right (knownNames right) owner field := by
  have hknown (name : String) : name ∈ knownNames left ↔ name ∈ knownNames right := by
    rw [mem_knownNames_iff_summary, mem_knownNames_iff_summary, h]
  have hback (directive : Directive) : checkBackReference left owner field directive
      = checkBackReference right owner field directive := by
    rw [checkBackReference, checkBackReference,
      backReferenceIssue?_congr (congrArg Summary.entities h)]
  rw [checkField, checkField, checkKnown_congr hknown, checkBackReferences, checkBackReferences,
    funext hback]

/-- Schemas with the same summary have the same findings about a definition. -/
theorem checkDefinition_congr (h : summary left = summary right) (definition : Definition) :
    checkDefinition left definition = checkDefinition right definition := by
  have hentity (owner : Declaration) : checkEntity left owner = checkEntity right owner := by
    have hfield : checkField left (knownNames left) owner
        = checkField right (knownNames right) owner := funext fun _ => checkField_congr h
    rw [checkEntity, checkEntity, hfield]
  cases definition with
  | type type => rw [checkDefinition, checkDefinition, hentity]
  | typeExtension _ => rfl
  | schema _ => rfl
  | schemaExtension _ => rfl
  | directive _ => rfl

theorem checkItem_congr (h : summary left = summary right) (item : Item) :
    checkItem (left.map .definition) item = checkItem (right.map .definition) item := by
  cases item with
  | definition definition =>
      rw [checkItem, checkItem, filterMap_definition?, filterMap_definition?,
        checkDefinition_congr h]
  | executable _ => rfl

/-! ## Bystanders -/

/-- A definition that has no rules and gives the schema neither a name nor an entity. -/
inductive Definition.IsBystander : Definition → Prop
  | scalar {type : TypeDefinition} : type.body = .scalar → IsBystander (.type type)
  | union {type : TypeDefinition} {members : List NamedType} :
      type.body = .union members → IsBystander (.type type)
  | inputObject {type : TypeDefinition} {fields : List InputValue} :
      type.body = .inputObject fields → IsBystander (.type type)
  | typeExtension {extension : TypeDefinition} : IsBystander (.typeExtension extension)
  | schema {definition : SchemaDefinition} : IsBystander (.schema definition)
  | schemaExtension {extension : SchemaDefinition} : IsBystander (.schemaExtension extension)
  | directive {definition : DirectiveDefinition} : IsBystander (.directive definition)

/-- `Padded definitions padded`: `padded` is `definitions` with bystanders put in, anywhere. -/
inductive Padded : List Definition → List Definition → Prop
  | nil : Padded [] []
  | keep {definition : Definition} {definitions padded : List Definition} :
      Padded definitions padded → Padded (definition :: definitions) (definition :: padded)
  | insert {bystander : Definition} {definitions padded : List Definition} :
      bystander.IsBystander → Padded definitions padded → Padded definitions (bystander :: padded)

theorem Definition.IsBystander.not_isUsable {type : TypeDefinition} (h : IsBystander (.type type)) :
    ¬ type.isUsable = true := by
  rw [TypeDefinition.isUsable]
  cases h with
  | scalar hbody => simp [hbody]
  | union hbody => simp [hbody]
  | inputObject hbody => simp [hbody]

theorem Definition.IsBystander.checkDefinition_eq_nil {definition : Definition}
    (h : definition.IsBystander) : checkDefinition definitions definition = [] := by
  cases definition with
  | type type =>
      have hobject : ¬ type.IsObject := fun hobject =>
        h.not_isUsable (TypeDefinition.isUsable_iff.mpr (.inl hobject))
      exact checkDefinition_type_eq_nil_iff.mpr
        ⟨fun hobject' => absurd hobject' hobject, fun himport => absurd himport.1 hobject⟩
  | typeExtension _ => rfl
  | schema _ => rfl
  | schemaExtension _ => rfl
  | directive _ => rfl

/-! ## Schemas with bystanders -/

namespace Padded

variable {padded : List Definition}

/-- Of what only usable types can pass, both schemas have the same. -/
theorem filter_typeDefinitions {test : TypeDefinition → Bool}
    (htest : ∀ type, test type = true → type.isUsable = true) (h : Padded definitions padded) :
    (typeDefinitions padded).filter test = (typeDefinitions definitions).filter test := by
  simp only [typeDefinitions]
  induction h with
  | nil => rfl
  | @keep definition _ _ _ ih =>
      rw [List.filterMap_cons, List.filterMap_cons]
      cases definition.type? with
      | none => exact ih
      | some type => simp only [List.filter_cons, ih]
  | @insert bystander _ _ hbystander _ ih =>
      rw [List.filterMap_cons]
      cases htype : bystander.type? with
      | none => exact ih
      | some type =>
          rw [Definition.type?_eq_some_iff.mp htype] at hbystander
          have hfails : ¬ test type = true := fun h => hbystander.not_isUsable (htest type h)
          rw [List.filter_cons_of_neg hfails, ih]

theorem localNames_eq (h : Padded definitions padded) :
    localNames padded = localNames definitions := by
  rw [localNames, localNames, h.filter_typeDefinitions fun _ htest => htest]

theorem importedNames_eq (h : Padded definitions padded) :
    importedNames padded = importedNames definitions := by
  rw [importedNames, importedNames, h.filter_typeDefinitions fun _ htest => ?_]
  exact TypeDefinition.isUsable_iff.mpr (.inl (TypeDefinition.isImportType_iff.mp htest).1)

theorem gatheredNames_eq (h : Padded definitions padded) :
    gatheredNames padded = gatheredNames definitions := by
  rw [gatheredNames, gatheredNames, h.localNames_eq, h.importedNames_eq]

theorem entityNamed?_eq (h : Padded definitions padded) (name : String) :
    entityNamed? padded name = entityNamed? definitions name := by
  rw [entityNamed?, entityNamed?, ← List.head?_filter, ← List.head?_filter,
    h.filter_typeDefinitions fun type htest => ?_]
  exact TypeDefinition.isUsable_iff.mpr ((isEntity_and_name_iff type).mp htest).1.isUsable

theorem summary_eq (h : Padded definitions padded) : summary padded = summary definitions := by
  rw [summary, summary, h.gatheredNames_eq, funext h.entityNamed?_eq]

theorem flatMap_eq {f : Definition → List Finding} (h : Padded definitions padded)
    (hf : ∀ definition : Definition, definition.IsBystander → f definition = []) :
    padded.flatMap f = definitions.flatMap f := by
  induction h with
  | nil => rfl
  | keep _ ih => rw [List.flatMap_cons, List.flatMap_cons, ih]
  | insert hbystander _ ih => rw [List.flatMap_cons, hf _ hbystander, List.nil_append, ih]

theorem validate_eq (h : Padded definitions padded) : validate padded = validate definitions := by
  rw [validate, validate, checkNames_eq_map, checkNames_eq_map, h.gatheredNames_eq,
    funext (checkDefinition_congr h.summary_eq),
    h.flatMap_eq fun _ hbystander => hbystander.checkDefinition_eq_nil]

end Padded

/-- **A definition sees of its siblings no more than the summary**, so schemas with the same
summary give the same answer about any one item; and bystanders, whatever they hold and wherever
they stand, change nothing of what is found in a schema. -/
theorem checkItem_eq_of_summary_eq :
    (∀ left right : List Definition, summary left = summary right → ∀ item : Item,
        checkItem (left.map .definition) item = checkItem (right.map .definition) item)
      ∧ ∀ definitions padded : List Definition, Padded definitions padded →
          validate padded = validate definitions :=
  ⟨fun _ _ => checkItem_congr, fun _ _ => Padded.validate_eq⟩

/-! ## A small schema -/

section Schemas

open Bare

/-- A schema with an entity that has one field beside its identifier. -/
def poolOf (owner : TypeExpr) : List Definition := [.type (entity "Pool" [field "owner" owner []])]

/-- An entity that finds its pools through their field `owner`. -/
def poolOwner : TypeDefinition :=
  entity "Owner" [field "pools" (required (named "Pool")) [derivedFrom "owner"]]

/-- A scalar that looks like an entity. -/
def poolScalar : TypeDefinition := ⟨none, none, name "Pool", [directive "entity" []], .scalar⟩

end Schemas

/-- What wraps the type of a field does not show. -/
theorem summary_poolOf {type type' : TypeExpr} (h : type.baseName = type'.baseName) :
    summary (poolOf type) = summary (poolOf type') := by
  have hentity (type : TypeExpr) (name : String) :
      (entityNamed? (poolOf type) name).map TypeDefinition.fieldBases
        = if "Pool" == name then some [("id", "ID"), ("owner", type.baseName)] else none := by
    have hfind : entityNamed? (poolOf type) name
        = if "Pool" == name then (typeDefinitions (poolOf type)).head? else none :=
      List.find?_singleton
    rw [hfind]
    cases "Pool" == name with
    | true => rfl
    | false => rfl
  rw [summary, summary, funext (hentity type), funext (hentity type'), h]
  rfl

theorem checkItem_poolOwner :
    summary (poolOf (Bare.named "Owner"))
        = summary (poolOf (Bare.listOf (Bare.required (Bare.named "Owner"))))
      ∧ checkItem ((poolOf (Bare.named "Owner")).map .definition) (.definition (.type poolOwner))
        = checkItem ((poolOf (Bare.listOf (Bare.required (Bare.named "Owner")))).map .definition)
            (.definition (.type poolOwner))
      ∧ Padded (poolOf (Bare.named "Owner")) (.type poolScalar :: poolOf (Bare.named "Owner"))
      ∧ validate (.type poolScalar :: poolOf (Bare.named "Owner"))
        = validate (poolOf (Bare.named "Owner")) := by
  have hsummary : summary (poolOf (Bare.named "Owner"))
      = summary (poolOf (Bare.listOf (Bare.required (Bare.named "Owner")))) := summary_poolOf rfl
  have hpadded : Padded (poolOf (Bare.named "Owner"))
      (.type poolScalar :: poolOf (Bare.named "Owner")) :=
    .insert (.scalar rfl) (.keep .nil)
  exact ⟨hsummary, checkItem_eq_of_summary_eq.1 _ _ hsummary _, hpadded,
    checkItem_eq_of_summary_eq.2 _ _ hpadded⟩

end EntitySchema
