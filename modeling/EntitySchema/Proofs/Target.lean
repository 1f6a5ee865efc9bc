/-
# `EntitySchema.Proofs.Target` — where the back-references of a clean schema lead

A back-reference is followed to an entity of the schema, and checked there.  If the type of its
field has another name, nothing is checked, in the belief that this name is imported or reported.
The belief fails for names that a field may have and that belong to no entity: those of built-in
scalars, of enumerations, of interfaces without `@entity`, and of the import type.  Fields with such
an *inert* name are the only ones whose back-references go unchecked and unreported
(`followed_iff_not_isInert`).

Where a back-reference is followed, the type of the field it names has the right name inside all
wrappers.  Nothing looks at the wrappers themselves, but for the rule on lists if the target is an
object type (`sourceType_hasBase`).  So `[Pool!]` leads back to `Pool` as well as `[Pool!]!` does.
-/
import EntitySchema.Proofs.Bare
import EntitySchema.Proofs.Verdict

namespace EntitySchema

variable {definitions : List Definition}

/-! ## Inert names -/

/-- A name that a field may have and that leads to no entity. -/
inductive IsInert (definitions : List Definition) (name : String) : Prop
  | scalar {scalar : Scalar} :
      scalar.name = name → ¬ IsLocal definitions name → ¬ Imports definitions name →
      IsInert definitions name
  | enum {type : TypeDefinition} :
      Definition.type type ∈ definitions → type.IsEnum → type.name.text = name →
      IsInert definitions name
  | interface {type : TypeDefinition} :
      Definition.type type ∈ definitions → type.IsInterface → ¬ type.IsEntity →
      type.name.text = name → IsInert definitions name
  | importType {type : TypeDefinition} :
      Definition.type type ∈ definitions → type.IsImportType → type.name.text = name →
      IsInert definitions name

/-- A type that is no entity keeps its name from any other entity. -/
theorem WellFormed.not_hasEntity (h : WellFormed definitions) {type : TypeDefinition}
    (hmem : Definition.type type ∈ definitions)
    (husable : type.IsObject ∨ type.IsInterface ∨ type.IsEnum) (hentity : ¬ type.IsEntity) :
    ¬ HasEntity definitions type.name.text := by
  rintro ⟨entity, hmem', hentity', hname⟩
  cases h.names.eq_of_name_eq hmem' hentity'.isUsable hmem husable hname
  exact hentity hentity'

/-- In a well-formed schema an inert name is neither imported nor that of an entity. -/
theorem IsInert.unresolved {name : String} (h : IsInert definitions name)
    (hwf : WellFormed definitions) :
    ¬ Imports definitions name ∧ ¬ HasEntity definitions name := by
  have hlocal {type : TypeDefinition} (hmem : Definition.type type ∈ definitions)
      (husable : type.IsObject ∨ type.IsInterface ∨ type.IsEnum) (hentity : ¬ type.IsEntity) :
      ¬ Imports definitions type.name.text ∧ ¬ HasEntity definitions type.name.text :=
    ⟨hwf.names.notImported _ ⟨type, hmem, husable, rfl⟩,
      hwf.not_hasEntity hmem husable hentity⟩
  cases h with
  | scalar _ hnotLocal hnotImported =>
      exact ⟨hnotImported, fun hentity => hnotLocal hentity.isLocal⟩
  | enum hmem henum hname => exact hname ▸ hlocal hmem (.inr (.inr henum)) henum.not_isEntity
  | interface hmem hinterface hentity hname =>
      exact hname ▸ hlocal hmem (.inr (.inl hinterface)) hentity
  | importType hmem himport hname =>
      exact hname ▸ hlocal hmem (.inl himport.1) (hwf.not_isEntity_of_isImportType hmem himport)

/-! ## Causes that are reported -/

/-- The run reports that the type of the field is unknown, or that a type of this name is no
entity. -/
def IsReported (definitions : List Definition) (owner : Declaration) (field : Field)
    (base : String) : Prop :=
  owner.finding field.span (.unknownType field.name.text base) ∈ validate definitions
    ∨ ∃ type, Definition.type type ∈ definitions ∧ type.name.text = base
      ∧ type.declaration.finding type.span .notAnEntity ∈ validate definitions

/-- An object type without `@entity` is reported. -/
theorem notAnEntity_mem_validate {type : TypeDefinition}
    (hmem : Definition.type type ∈ definitions) (hobject : type.IsObject)
    (hname : type.name.text ≠ "_Schema_") (hentity : ¬ type.IsEntity) :
    type.declaration.finding type.span .notAnEntity ∈ validate definitions := by
  refine mem_validate_of_entity hmem hobject hname ?_
  have hdirective : ¬ Directive.has type.directives "entity" = true :=
    fun h => hentity ⟨.inl hobject, Directive.has_iff.mp h⟩
  have hfound : checkEntityDirective type.declaration
      = [type.declaration.finding type.span .notAnEntity] := if_neg hdirective
  simp [checkEntity, hfound]

/-- A field of an unknown type is reported. -/
theorem unknownType_mem_validate {type : TypeDefinition} {field : Field} {base : String}
    (hmem : Definition.type type ∈ definitions) (hobject : type.IsObject)
    (hname : type.name.text ≠ "_Schema_") (hfield : field ∈ type.fields)
    (hbase : field.type.HasBase base) (hunknown : ¬ IsKnown definitions base) :
    type.declaration.finding field.span (.unknownType field.name.text base)
      ∈ validate definitions := by
  refine mem_validate_of_entity hmem hobject hname ?_
  have hcontains : ¬ (knownNames definitions).contains base = true :=
    fun h => hunknown (mem_knownNames.mp (List.contains_iff_mem.mp h))
  have hfound : checkKnown (knownNames definitions) type.declaration field
      = [type.declaration.finding field.span (.unknownType field.name.text base)] := by
    rw [checkKnown, TypeExpr.hasBase_iff.mp hbase, if_neg hcontains]
  have hinField : type.declaration.finding field.span (.unknownType field.name.text base)
      ∈ checkField definitions (knownNames definitions) type.declaration field := by
    simp [checkField, hfound]
  have hinFields := List.mem_flatMap.mpr ⟨field, hfield, hinField⟩
  exact List.mem_append_left _ (List.mem_append_right _ hinFields)

/-- Whatever the schema: if the type of a field is neither imported nor an entity, the run reports
why, unless the name is inert. -/
theorem isReported_of_unresolved {type : TypeDefinition} {field : Field} {base : String}
    (hmem : Definition.type type ∈ definitions) (hobject : type.IsObject)
    (hname : type.name.text ≠ "_Schema_") (hfield : field ∈ type.fields)
    (hbase : field.type.HasBase base) (himports : ¬ Imports definitions base)
    (hentity : ¬ HasEntity definitions base) (hinert : ¬ IsInert definitions base) :
    IsReported definitions type.declaration field base := by
  by_cases hlocal : IsLocal definitions base
  · -- Of the local types of this name only an object type without `@entity` is left.
    obtain ⟨other, hother, husable, hotherName⟩ := hlocal
    have hnotEntity : ¬ other.IsEntity := fun h => hentity ⟨other, hother, h, hotherName⟩
    rcases husable with hotherObject | hinterface | henum
    · have hordinary : other.name.text ≠ "_Schema_" :=
        fun h => hinert (.importType hother ⟨hotherObject, h⟩ hotherName)
      exact .inr ⟨other, hother, hotherName,
        notAnEntity_mem_validate hother hotherObject hordinary hnotEntity⟩
    · exact absurd (.interface hother hinterface hnotEntity hotherName) hinert
    · exact absurd (.enum hother henum hotherName) hinert
  · -- Neither local nor imported: a scalar would be inert, so the name is unknown.
    have hunknown : ¬ IsKnown definitions base := by
      rintro (⟨scalar, hscalar⟩ | h | h)
      · exact hinert (.scalar hscalar hlocal himports)
      · exact hlocal h
      · exact himports h
    exact .inl (unknownType_mem_validate hmem hobject hname hfield hbase hunknown)

/-! ## Small schemas

Two entities, one of which finds the others through their field `pool`, which leads back to it by a
type that is left open; and an entity with a back-reference that has nowhere to lead. -/

section Schemas

open Bare

def swaps : Field :=
  field "swaps" (required (listOf (required (named "Swap")))) [derivedFrom "pool"]

def pool : TypeDefinition := entity "Pool" [swaps]

/-- An entity of the kind that `body` makes of its fields. -/
def swap (body : List Field → TypeBody) (back : TypeExpr) : TypeDefinition :=
  ⟨none, none, name "Swap", [directive "entity" []],
    body [field "id" (required (named "ID")) [], field "pool" back []]⟩

def poolAndSwap (body : List Field → TypeBody) (back : TypeExpr) : List Definition :=
  [.type pool, .type (swap body back)]

/-- Two types that the wording of the finding leaves out. -/
def pools : TypeExpr := listOf (required (named "Pool"))

def poolRows : TypeExpr := listOf (listOf (named "Pool"))

def label : Field := field "label" (required (named "String")) [derivedFrom "pools"]

def labelled : TypeDefinition := entity "Label" [label]

end Schemas

theorem names_derivedFrom {source : String} : (Bare.derivedFrom source).Names source :=
  ⟨_, _, rfl, rfl, rfl, rfl⟩

/-- The check of `Pool` comes down to the way back. -/
theorem checkDefinition_pool_eq_nil_iff {body : List Field → TypeBody} {back : TypeExpr}
    (hbody : body = .object [] ∨ body = .interface []) :
    checkDefinition (poolAndSwap body back) (.type pool) = [] ↔ back.HasBase "Pool" := by
  have hpool : HasEntity (poolAndSwap body back) "Pool" :=
    ⟨pool, List.mem_cons_self, ⟨.inl ⟨_, _, rfl⟩, _, List.mem_cons_self, rfl⟩, rfl⟩
  have hcheck : checkDefinition (poolAndSwap body back) (.type pool)
      = (sourceIssue? (poolAndSwap body back) "Pool" "swaps" "pool" (swap body back)).toList.map
          (pool.declaration.finding none) ++ [] ++ [] ++ [] := by
    rcases hbody with rfl | rfl
    · rfl
    · rfl
  have hback : First (·.name.text = "pool") (swap body back).fields
      (Bare.field "pool" back []) := by
    rcases hbody with rfl | rfl
    · exact .later (by decide) (.here rfl)
    · exact .later (by decide) (.here rfl)
  rw [hcheck, List.append_nil, List.append_nil, List.append_nil, List.map_eq_nil_iff,
    Option.toList_eq_nil_iff, sourceIssue?_eq_none_iff]
  constructor
  · rintro ⟨back', hback', hbase, _⟩
    cases First.unique hback hback'
    exact hbase
  · intro hbase
    exact ⟨_, hback, hbase, hpool⟩

theorem validate_poolAndSwap_eq_nil_iff {body : List Field → TypeBody} {back : TypeExpr}
    (hbody : body = .object [] ∨ body = .interface []) :
    validate (poolAndSwap body back) = []
      ↔ back.HasBase "Pool"
        ∧ checkDefinition (poolAndSwap body back) (.type (swap body back)) = [] := by
  have hnames : checkNames (poolAndSwap body back) = [] := by
    rcases hbody with rfl | rfl
    · rfl
    · rfl
  rw [validate, hnames, List.append_nil, List.flatMap_eq_nil_iff,
    ← checkDefinition_pool_eq_nil_iff hbody]
  constructor
  · intro h
    exact ⟨h _ List.mem_cons_self, h _ (List.mem_cons_of_mem _ List.mem_cons_self)⟩
  · rintro ⟨hpool, hswap⟩ definition hmem
    rcases List.mem_cons.mp hmem with rfl | hmem
    · exact hpool
    · exact List.mem_singleton.mp hmem ▸ hswap

/-- If the target is an interface, every type with the right name inside leads back. -/
theorem validate_poolAndSwap_interface {back : TypeExpr} :
    validate (poolAndSwap (.interface []) back) = [] ↔ back.HasBase "Pool" :=
  (validate_poolAndSwap_eq_nil_iff (.inr rfl)).trans (and_iff_left rfl)

/-- If the target is an object type, its own rule on lists comes on top. -/
theorem validate_poolAndSwap_object {back : TypeExpr} :
    validate (poolAndSwap (.object []) back) = []
      ↔ back.HasBase "Pool" ∧ ∀ element, back.ListsOf element → element.Marked := by
  have hpool : IsLocal (poolAndSwap (.object []) back) "Pool" :=
    ⟨pool, List.mem_cons_self, .inl ⟨_, _, rfl⟩, rfl⟩
  have hswap : checkDefinition (poolAndSwap (.object []) back) (.type (swap (.object []) back))
      = checkField (poolAndSwap (.object []) back) (knownNames (poolAndSwap (.object []) back))
          (swap (.object []) back).declaration (Bare.field "pool" back []) ++ [] ++ [] := rfl
  rw [validate_poolAndSwap_eq_nil_iff (.inl rfl), hswap, List.append_nil, List.append_nil,
    checkField_eq_nil_iff]
  refine and_congr_right fun hbase => ⟨fun hrules => hrules.elements, fun helements => ?_⟩
  exact ⟨rfl, helements, ⟨"Pool", hbase, .inr (.inl hpool)⟩, fun _ hmem => nomatch hmem⟩

/-! ## Back-references that are followed -/

/-- The directive names a field of the first entity called `base`, and this leads back. -/
def IsFollowed (definitions : List Definition) (origin base : String) (directive : Directive) :
    Prop :=
  ∃ source target, directive.Names source ∧ FirstEntity definitions base target
    ∧ LeadsBack definitions origin source target

/-- What the rules ask of a back-reference, in a schema that keeps them. -/
theorem WellFormed.backReferenceRule (h : WellFormed definitions) {type : TypeDefinition}
    {field : Field} {directive : Directive} (hmem : Definition.type type ∈ definitions)
    (hobject : type.IsObject) (hname : type.name.text ≠ "_Schema_") (hfield : field ∈ type.fields)
    (hdirective : directive ∈ field.directives) (hderived : directive.name.text = "derivedFrom") :
    BackReferenceRule definitions type.name.text field directive :=
  ((h.entities type hmem hobject hname).fields field hfield).backReferences directive hdirective
    hderived

/-- **What becomes of a back-reference.**  Whatever the schema, if its field leads to no entity and
to no import, the run reports why, unless the name is inert.  In a clean schema its field leads to
an entity or to an import exactly if the name is not inert, and to an entity only if the
back-reference is followed there and leads back. -/
theorem followed_iff_not_isInert {type : TypeDefinition} {field : Field} {directive : Directive}
    {base : String} (hmem : Definition.type type ∈ definitions) (hobject : type.IsObject)
    (hname : type.name.text ≠ "_Schema_") (hfield : field ∈ type.fields)
    (hdirective : directive ∈ field.directives) (hderived : directive.name.text = "derivedFrom")
    (hbase : field.type.HasBase base) :
    (¬ Imports definitions base → ¬ HasEntity definitions base → ¬ IsInert definitions base →
        IsReported definitions type.declaration field base)
      ∧ (validate definitions = [] →
          (Imports definitions base ∨ HasEntity definitions base ↔ ¬ IsInert definitions base)
          ∧ (HasEntity definitions base →
              IsFollowed definitions type.name.text base directive)) := by
  have hreported := isReported_of_unresolved hmem hobject hname hfield hbase
  refine ⟨hreported, fun hclean => ⟨⟨?_, ?_⟩, ?_⟩⟩
  · intro hresolved hinert
    obtain ⟨hnotImported, hnoEntity⟩ := hinert.unresolved (validate_eq_nil_iff.mp hclean)
    exact hresolved.elim hnotImported hnoEntity
  · intro hinert
    by_cases himports : Imports definitions base
    · exact .inl himports
    · by_cases hentity : HasEntity definitions base
      · exact .inr hentity
      · have h := hreported himports hentity hinert
        rw [IsReported, hclean] at h
        rcases h with h | ⟨_, _, _, h⟩
        · cases h
        · cases h
  · intro hentity
    have hwf := validate_eq_nil_iff.mp hclean
    obtain ⟨source, base', hnames, hbase', hrule⟩ :=
      hwf.backReferenceRule hmem hobject hname hfield hdirective hderived
    cases (TypeExpr.hasBase_iff.mp hbase).symm.trans (TypeExpr.hasBase_iff.mp hbase')
    rcases hrule with hnone | ⟨target, hfirst, hback⟩
    · exact absurd hentity hnone
    · exact ⟨source, target, hnames, hfirst, hback⟩

theorem followed_swaps :
    validate (poolAndSwap (.object []) (Bare.named "Pool")) = []
      ∧ IsFollowed (poolAndSwap (.object []) (Bare.named "Pool")) "Pool" "Swap"
          (Bare.derivedFrom "pool") := by
  have hclean : validate (poolAndSwap (.object []) (Bare.named "Pool")) = [] := by decide
  have hpool : Definition.type pool ∈ poolAndSwap (.object []) (Bare.named "Pool") :=
    List.mem_cons_self
  have hswaps : swaps ∈ pool.fields := List.mem_cons_of_mem _ List.mem_cons_self
  have hderived : Bare.derivedFrom "pool" ∈ swaps.directives := List.mem_cons_self
  have hbase : swaps.type.HasBase "Swap" := TypeExpr.hasBase_iff.mpr rfl
  have hswap : HasEntity (poolAndSwap (.object []) (Bare.named "Pool")) "Swap" :=
    ⟨swap (.object []) (Bare.named "Pool"), List.mem_cons_of_mem _ List.mem_cons_self,
      ⟨.inl ⟨_, _, rfl⟩, _, List.mem_cons_self, rfl⟩, rfl⟩
  have hfollowed := followed_iff_not_isInert hpool ⟨_, _, rfl⟩ (by decide) hswaps hderived rfl hbase
  exact ⟨hclean, (hfollowed.2 hclean).2 hswap⟩

/-- A back-reference to a scalar is not followed, and nothing is reported. -/
theorem not_forall_followed :
    ¬ ∀ (definitions : List Definition) (type : TypeDefinition) (field : Field)
        (directive : Directive) (base : String),
      validate definitions = [] → Definition.type type ∈ definitions → type.IsObject →
      type.name.text ≠ "_Schema_" → field ∈ type.fields → directive ∈ field.directives →
      directive.name.text = "derivedFrom" → field.type.HasBase base →
      Imports definitions base ∨ HasEntity definitions base := by
  intro h
  have hresolved := h [.type labelled] labelled label (Bare.derivedFrom "pools") "String"
    (by decide) List.mem_cons_self ⟨_, _, rfl⟩ (by decide)
    (List.mem_cons_of_mem _ List.mem_cons_self) List.mem_cons_self rfl
    (TypeExpr.hasBase_iff.mpr rfl)
  rw [← mem_importedNames] at hresolved
  rcases hresolved with himported | hentity
  · exact absurd himported (by decide)
  · have hnone : entityNamed? [.type labelled] "String" = none := rfl
    exact entityNamed?_eq_none_iff.mp hnone hentity

/-! ## The way back -/

/-- The types that the wording of the finding announces: the entity itself, in a non-null mark, or
as a list of it with marks inside and outside. -/
inductive TypeExpr.IsAnnounced (origin : String) : TypeExpr → Prop
  | bare {type : NamedType} : type.name.text = origin → IsAnnounced origin (.named type)
  | marked {mark : Option Span} {type : NamedType} :
      type.name.text = origin → IsAnnounced origin (.nonNull mark (.named type))
  | list {outer span inner : Option Span} {type : NamedType} :
      type.name.text = origin →
      IsAnnounced origin (.nonNull outer (.list span (.nonNull inner (.named type))))

/-- **The field that leads back.**  In a clean schema, if a back-reference is followed, its target
has a field of the name it gives, and the first such field has the right name inside all wrappers.
If the target is an object type, the field is no list with elements that may be null. -/
theorem sourceType_hasBase {type target : TypeDefinition} {field : Field} {directive : Directive}
    {source : String} (hclean : validate definitions = [])
    (hmem : Definition.type type ∈ definitions) (hobject : type.IsObject)
    (hname : type.name.text ≠ "_Schema_") (hfield : field ∈ type.fields)
    (hdirective : directive ∈ field.directives) (hderived : directive.name.text = "derivedFrom")
    (hsource : directive.Names source)
    (htarget : entityNamed? definitions field.type.baseName = some target) :
    ∃ back, First (·.name.text = source) target.fields back
      ∧ back.type.HasBase type.name.text
      ∧ (target.IsObject → ∀ element, back.type.ListsOf element → element.Marked) := by
  have hwf := validate_eq_nil_iff.mp hclean
  have hfirst := entityNamed?_eq_some_iff.mp htarget
  obtain ⟨source', base, hnames, hbase, hrule⟩ :=
    hwf.backReferenceRule hmem hobject hname hfield hdirective hderived
  cases hsource.unique hnames
  cases TypeExpr.hasBase_iff.mp hbase
  rcases hrule with hnone | ⟨target', hfirst', back, hback, hbackBase, _⟩
  · exact absurd hfirst.hasEntity hnone
  · cases First.unique hfirst hfirst'
    refine ⟨back, hback, hbackBase, fun htargetObject => ?_⟩
    -- An entity is not the import type, so the rules on fields hold of the target.
    have hordinary : target.name.text ≠ "_Schema_" := fun h =>
      hwf.not_isEntity_of_isImportType hfirst.mem ⟨htargetObject, h⟩ (First.holds hfirst).1
    exact ((hwf.entities target hfirst.mem htargetObject hordinary).fields back
      (First.mem hback)).elements

/-- The rule on lists is all that an object type asks on top, and `[Pool!]` keeps it. -/
theorem validate_pools : validate (poolAndSwap (.object []) pools) = [] := by
  refine validate_poolAndSwap_object.mpr ⟨TypeExpr.hasBase_iff.mpr rfl, ?_⟩
  intro element hlists
  cases hlists with | bare => exact .nonNull

/-- If the target is an interface, even `[[Pool]]` leads back; if it is an object type, `[Pool!]`
does, and its elements are marked. -/
theorem sourceType_of_poolAndSwap :
    (validate (poolAndSwap (.interface []) poolRows) = []
      ∧ ∃ back, First (·.name.text = "pool") (swap (.interface []) poolRows).fields back
        ∧ back.type.HasBase "Pool")
      ∧ validate (poolAndSwap (.object []) pools) = []
      ∧ ∃ back, First (·.name.text = "pool") (swap (.object []) pools).fields back
        ∧ back.type.HasBase "Pool"
        ∧ ∀ element, back.type.ListsOf element → element.Marked := by
  have hpool : pool.IsObject := ⟨_, _, rfl⟩
  have hswaps : swaps ∈ pool.fields := List.mem_cons_of_mem _ List.mem_cons_self
  refine ⟨?_, validate_pools, ?_⟩
  · have hclean : validate (poolAndSwap (.interface []) poolRows) = [] :=
      validate_poolAndSwap_interface.mpr (TypeExpr.hasBase_iff.mpr rfl)
    have htarget : entityNamed? (poolAndSwap (.interface []) poolRows) swaps.type.baseName
        = some (swap (.interface []) poolRows) := rfl
    obtain ⟨back, hback, hbase, _⟩ :=
      sourceType_hasBase hclean List.mem_cons_self hpool (by decide) hswaps List.mem_cons_self rfl
        names_derivedFrom htarget
    exact ⟨hclean, back, hback, hbase⟩
  · have htarget : entityNamed? (poolAndSwap (.object []) pools) swaps.type.baseName
        = some (swap (.object []) pools) := rfl
    obtain ⟨back, hback, hbase, helements⟩ :=
      sourceType_hasBase validate_pools List.mem_cons_self hpool (by decide) hswaps
        List.mem_cons_self rfl names_derivedFrom htarget
    exact ⟨back, hback, hbase, helements ⟨_, _, rfl⟩⟩

/-- `[Pool!]` is none of the types that the wording announces. -/
theorem not_forall_isAnnounced :
    ¬ ∀ (definitions : List Definition) (type target : TypeDefinition) (field : Field)
        (directive : Directive) (source : String),
      validate definitions = [] → Definition.type type ∈ definitions → type.IsObject →
      type.name.text ≠ "_Schema_" → field ∈ type.fields → directive ∈ field.directives →
      directive.name.text = "derivedFrom" → directive.Names source →
      entityNamed? definitions field.type.baseName = some target →
      ∃ back, First (·.name.text = source) target.fields back
        ∧ back.type.IsAnnounced type.name.text := by
  intro h
  obtain ⟨field, hfield, hannounced⟩ :=
    h (poolAndSwap (.object []) pools) pool (swap (.object []) pools) swaps
      (Bare.derivedFrom "pool") "pool" validate_pools List.mem_cons_self ⟨_, _, rfl⟩ (by decide)
      (List.mem_cons_of_mem _ List.mem_cons_self) List.mem_cons_self rfl names_derivedFrom rfl
  cases First.unique hfield (.later (by decide) (.here rfl))
  cases hannounced

end EntitySchema
