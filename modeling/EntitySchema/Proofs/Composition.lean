/-
# `EntitySchema.Proofs.Composition` — clean schemas side by side

Two clean schemas that have no name in common, be it declared or imported, make a clean schema
together.  The join has more names and more entities than either part, and the entities of the left
part come before those of the right.  Still, a name that a part knows leads to the same entity as
before: the other part does not have the name, unless it is that of a built-in scalar, and this is
excluded.  So the join `Extends` both parts, and rules that are kept in a schema are kept in
whatever extends it.

The names of scalars have to be excluded.  A field of the scalar `String` can be a back-reference
that is not followed; an entity `String` from the other part would give it somewhere to lead.
-/
import EntitySchema.Proofs.Bare
import EntitySchema.Proofs.Verdict

namespace EntitySchema

/-- `Extends definitions larger`: the larger schema knows the names that the definitions know, and
these names lead to the same entities. -/
structure Extends (definitions larger : List Definition) : Prop where
  known : ∀ {name}, IsKnown definitions name → IsKnown larger name
  entity : ∀ {name}, IsKnown definitions name →
    entityNamed? larger name = entityNamed? definitions name

variable {definitions larger left right : List Definition} {name : String}

/-! ## Rules in a larger schema -/

namespace Extends

theorem hasEntity_iff (h : Extends definitions larger) (hknown : IsKnown definitions name) :
    HasEntity larger name ↔ HasEntity definitions name := by
  rw [← not_iff_not, ← entityNamed?_eq_none_iff, ← entityNamed?_eq_none_iff, h.entity hknown]

theorem firstEntity_iff (h : Extends definitions larger) (hknown : IsKnown definitions name)
    {target : TypeDefinition} :
    FirstEntity larger name target ↔ FirstEntity definitions name target := by
  rw [← entityNamed?_eq_some_iff, ← entityNamed?_eq_some_iff, h.entity hknown]

/-- A back-reference from a field of a known type is judged as before. -/
theorem backReferenceRule (h : Extends definitions larger) {origin base : String} {field : Field}
    {directive : Directive} (hbase : field.type.HasBase base) (hknown : IsKnown definitions base)
    (hrule : BackReferenceRule definitions origin field directive) :
    BackReferenceRule larger origin field directive := by
  obtain ⟨source, base', hnames, hbase', hrule⟩ := hrule
  cases hbase'.unique hbase
  refine ⟨source, base, hnames, hbase, ?_⟩
  rcases hrule with hnone | ⟨target, hfirst, back, hback, hbackBase, horigin⟩
  · exact .inl (mt (h.hasEntity_iff hknown).mp hnone)
  · have horigin' : HasEntity larger origin := (h.hasEntity_iff horigin.isKnown).mpr horigin
    exact .inr ⟨target, (h.firstEntity_iff hknown).mpr hfirst, back, hback, hbackBase, horigin'⟩

theorem fieldRules (h : Extends definitions larger) {origin : String} {field : Field}
    (hrules : FieldRules definitions origin field) : FieldRules larger origin field := by
  obtain ⟨base, hbase, hknown⟩ := hrules.known
  exact ⟨hrules.arguments, hrules.elements, ⟨base, hbase, h.known hknown⟩,
    fun directive hdirective hderived =>
      h.backReferenceRule hbase hknown (hrules.backReferences directive hdirective hderived)⟩

theorem entityRules (h : Extends definitions larger) {owner : Declaration}
    (hrules : EntityRules definitions owner) : EntityRules larger owner :=
  ⟨hrules.entity, hrules.noImport, hrules.identifier,
    fun field hfield => h.fieldRules (hrules.fields field hfield)⟩

end Extends

/-! ## The join of two schemas -/

theorem typeDefinitions_append :
    typeDefinitions (left ++ right) = typeDefinitions left ++ typeDefinitions right :=
  List.filterMap_append

theorem localNames_append : localNames (left ++ right) = localNames left ++ localNames right := by
  rw [localNames, typeDefinitions_append, List.filter_append, List.map_append]
  rfl

theorem importedNames_append :
    importedNames (left ++ right) = importedNames left ++ importedNames right := by
  rw [importedNames, typeDefinitions_append, List.filter_append, List.flatMap_append]
  rfl

theorem entityNamed?_append :
    entityNamed? (left ++ right) name = (entityNamed? left name).or (entityNamed? right name) := by
  rw [entityNamed?, typeDefinitions_append, List.find?_append]
  rfl

/-- No object type or interface has the name of a built-in scalar. -/
def SparesScalars (definitions : List Definition) : Prop :=
  ∀ type, Definition.type type ∈ definitions → type.IsObject ∨ type.IsInterface →
    type.name.text ∉ Scalar.names

/-- Where no name is shared, what one part knows is no entity of the other. -/
theorem SparesScalars.not_hasEntity (h : SparesScalars right)
    (hdisjoint : (gatheredNames left).Disjoint (gatheredNames right))
    (hknown : IsKnown left name) : ¬ HasEntity right name := by
  intro hentity
  rcases hknown with hscalar | hgathered
  · obtain ⟨type, hmem, htype, rfl⟩ := hentity
    exact h type hmem htype.1 (Scalar.mem_names.mpr hscalar)
  · exact hdisjoint (mem_gatheredNames.mpr hgathered)
      (mem_gatheredNames.mpr (.inl hentity.isLocal))

theorem isKnown_append :
    IsKnown (left ++ right) name ↔ IsKnown left name ∨ IsKnown right name := by
  simp only [← mem_knownNames, knownNames, localNames_append, importedNames_append, List.mem_append]
  tauto

theorem extends_append_left (h : SparesScalars right)
    (hdisjoint : (gatheredNames left).Disjoint (gatheredNames right)) :
    Extends left (left ++ right) where
  known hknown := isKnown_append.mpr (.inl hknown)
  entity hknown := by
    have hnone := h.not_hasEntity hdisjoint hknown
    rw [entityNamed?_append, entityNamed?_eq_none_iff.mpr hnone, Option.or_none]

theorem extends_append_right (h : SparesScalars left)
    (hdisjoint : (gatheredNames left).Disjoint (gatheredNames right)) :
    Extends right (left ++ right) where
  known hknown := isKnown_append.mpr (.inr hknown)
  entity hknown := by
    have hnone := h.not_hasEntity (List.disjoint_symm hdisjoint) hknown
    rw [entityNamed?_append, entityNamed?_eq_none_iff.mpr hnone, Option.none_or]

theorem gatheredNames_append_perm : (gatheredNames (left ++ right)).Perm
    (gatheredNames left ++ gatheredNames right) := by
  simp only [gatheredNames, localNames_append, importedNames_append, List.append_assoc]
  exact (List.perm_append_comm_assoc _ _ _).append_left _

theorem distinctNames_append (hleft : DistinctNames left) (hright : DistinctNames right)
    (hdisjoint : (gatheredNames left).Disjoint (gatheredNames right)) :
    DistinctNames (left ++ right) := by
  rw [← nodup_gatheredNames_iff, gatheredNames_append_perm.nodup_iff, List.nodup_append']
  exact ⟨nodup_gatheredNames_iff.mpr hleft, nodup_gatheredNames_iff.mpr hright, hdisjoint⟩

theorem WellFormed.append (hleft : WellFormed left) (hright : WellFormed right)
    (hleftSpares : SparesScalars left) (hrightSpares : SparesScalars right)
    (hdisjoint : (gatheredNames left).Disjoint (gatheredNames right)) :
    WellFormed (left ++ right) where
  entities type hmem hobject hname := by
    rcases List.mem_append.mp hmem with hmem | hmem
    · exact (extends_append_left hrightSpares hdisjoint).entityRules
        (hleft.entities type hmem hobject hname)
    · exact (extends_append_right hleftSpares hdisjoint).entityRules
        (hright.entities type hmem hobject hname)
  importTypes type hmem himport := by
    rcases List.mem_append.mp hmem with hmem | hmem
    · exact hleft.importTypes type hmem himport
    · exact hright.importTypes type hmem himport
  names := distinctNames_append hleft.names hright.names hdisjoint

/-- **Clean schemas compose**: nothing is found in the join of two schemas in which nothing is
found, if they have no name in common and no object type or interface is called like a built-in
scalar. -/
theorem validate_append_eq_nil (hleft : validate left = []) (hright : validate right = [])
    (hdisjoint : (gatheredNames left).Disjoint (gatheredNames right))
    (hleftSpares : SparesScalars left) (hrightSpares : SparesScalars right) :
    validate (left ++ right) = [] :=
  validate_eq_nil_iff.mpr ((validate_eq_nil_iff.mp hleft).append (validate_eq_nil_iff.mp hright)
    hleftSpares hrightSpares hdisjoint)

/-! ## Small schemas -/

section Schemas

open Bare

def poolSchema : List Definition :=
  [.type (entity "Pool" [field "swaps" (listOf (required (named "Swap"))) [derivedFrom "pool"]]),
    .type (entity "Swap" [field "pool" (required (named "Pool")) []])]

/-- A schema with an import, and a back-reference to what is imported. -/
def tokenSchema : List Definition :=
  [.type (entity "Token" [field "holder" (named "Account") [derivedFrom "tokens"]]),
    .type (importType [directive "import"
      [("types", list [string "Account"]), ("from", object [("name", string "bank")])]])]

end Schemas

theorem sparesScalars_of_localNames (h : ∀ name ∈ localNames definitions, name ∉ Scalar.names) :
    SparesScalars definitions := by
  intro type hmem htype
  have husable : type.IsObject ∨ type.IsInterface ∨ type.IsEnum := htype.imp_right .inl
  exact h _ (mem_localNames.mpr ⟨type, hmem, husable, rfl⟩)

theorem validate_poolSchema_append :
    validate poolSchema = [] ∧ validate tokenSchema = []
      ∧ (gatheredNames poolSchema).Disjoint (gatheredNames tokenSchema)
      ∧ SparesScalars poolSchema ∧ SparesScalars tokenSchema
      ∧ validate (poolSchema ++ tokenSchema) = [] := by
  have hpool : validate poolSchema = [] := rfl
  have htoken : validate tokenSchema = [] := rfl
  have hdisjoint : (gatheredNames poolSchema).Disjoint (gatheredNames tokenSchema) :=
    List.disjoint_left.mpr (by decide)
  have hpoolSpares : SparesScalars poolSchema := sparesScalars_of_localNames (by decide)
  have htokenSpares : SparesScalars tokenSchema := sparesScalars_of_localNames (by decide)
  exact ⟨hpool, htoken, hdisjoint, hpoolSpares, htokenSpares,
    validate_append_eq_nil hpool htoken hdisjoint hpoolSpares htokenSpares⟩

end EntitySchema
