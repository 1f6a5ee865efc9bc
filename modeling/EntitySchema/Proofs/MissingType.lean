/-
# `EntitySchema.Proofs.MissingType` — declaring a type that was missing

An enumeration gives a schema a name and nothing else: it has no rules, it is no entity, and it
imports nothing.  If the name is new, it collides with no other, and back-references lead where they
led before.  What is left is the check for known names, which changes for this name only.  So
declaring the type removes what was reported because it was missing, and keeps the rest as it was
and in its order (`validate_insert_enum`).
-/
import EntitySchema.Proofs.Composition
import EntitySchema.Proofs.Faults
import EntitySchema.Proofs.FirstFault
import EntitySchema.Proofs.Summary

namespace EntitySchema

/-- Whether an issue is that nothing declares the type `name`. -/
def Issue.isMissing (name : String) : Issue → Bool
  | .unknownType _ type => type == name
  | _ => false

/-- The findings that are left once the type `name` is declared. -/
def dropMissing (name : String) (findings : List Finding) : List Finding :=
  findings.filter fun finding => !finding.issue.isMissing name

variable {definitions left right : List Definition} {added : TypeDefinition}
  {owner : Declaration} {field : Field} {name : String} {findings : List Finding}

theorem dropMissing_eq_self (h : ∀ finding ∈ findings, finding.issue.isMissing name = false) :
    dropMissing name findings = findings :=
  List.filter_eq_self.mpr fun finding hmem => by rw [h finding hmem, Bool.not_false]

theorem dropMissing_append (findings findings' : List Finding) :
    dropMissing name (findings ++ findings')
      = dropMissing name findings ++ dropMissing name findings' :=
  List.filter_append ..

theorem dropMissing_flatMap {α : Type} (l : List α) (f : α → List Finding) :
    dropMissing name (l.flatMap f) = l.flatMap fun a => dropMissing name (f a) :=
  List.filter_flatMap ..

/-! ## What is never about a missing type -/

theorem Issue.topic_of_isMissing {issue : Issue} (h : issue.isMissing name = true) :
    issue.topic = .type := by
  rw [isMissing.eq_def] at h
  split at h
  next => rfl
  next => cases h

theorem backReferenceIssue?_not_isMissing {origin : String} {directive : Directive} {issue : Issue}
    (h : backReferenceIssue? definitions origin field directive = some issue) :
    issue.isMissing name = false := by
  have htopic : issue.topic ≠ .type :=
    (backReferenceIssue?_eq_iff.mp h).topic_ne (by decide) (by decide)
  exact Bool.eq_false_iff.mpr fun hmissing => htopic (Issue.topic_of_isMissing hmissing)

theorem importedTypeIssues_not_isMissing {value : Value} {issue : Issue}
    (h : issue ∈ importedTypeIssues value) : issue.isMissing name = false := by
  rw [importedTypeIssues.eq_def] at h
  split at h
  · cases h
  · split at h
    · obtain ⟨entry, _, hentry⟩ := List.mem_filterMap.mp h
      rcases eq_of_fieldIssue?_eq_some hentry with rfl | rfl
      · rfl
      · rfl
    · cases List.mem_singleton.mp h
      rfl
  · cases List.mem_singleton.mp h
    rfl

theorem importTypesIssues_not_isMissing {argument : Option Argument} {issue : Issue}
    (h : issue ∈ importTypesIssues argument) : issue.isMissing name = false := by
  rw [importTypesIssues.eq_def] at h
  split at h
  · cases List.mem_singleton.mp h
    rfl
  · split at h
    · obtain ⟨item, _, hissue⟩ := List.mem_flatMap.mp h
      exact importedTypeIssues_not_isMissing hissue
    · cases List.mem_singleton.mp h
      rfl

theorem ImportSourceFault.not_isMissing {directive : Directive} {argument : Option Argument}
    {span : Option Span} {issue : Issue} (h : ImportSourceFault directive argument span issue) :
    issue.isMissing name = false := by
  cases h with
  | missing => rfl
  | value _ => rfl
  | size _ _ => rfl
  | field _ hissue =>
      rcases eq_of_fieldIssue?_eq_some hissue with rfl | rfl
      · rfl
      · rfl

theorem ImportTypeFault.not_isMissing {span : Option Span} {issue : Issue}
    (h : ImportTypeFault owner span issue) : issue.isMissing name = false := by
  cases h with
  | fields _ => rfl
  | directive _ _ => rfl
  | types _ _ hissue => exact importTypesIssues_not_isMissing hissue
  | source _ _ hsource => exact hsource.not_isMissing

/-! ## What is about a missing type -/

theorem FieldFault.of_isMissing {origin : String} {span : Option Span} {issue : Issue}
    (h : FieldFault definitions origin field span issue) (hmissing : issue.isMissing name = true) :
    field.type.HasBase name ∧ span = field.span ∧ issue = .unknownType field.name.text name := by
  cases h with
  | elements _ _ => cases hmissing
  | unknown _ =>
      have hbase : field.type.baseName = name := beq_iff_eq.mp hmissing
      exact ⟨TypeExpr.hasBase_iff.mpr hbase, rfl, congrArg _ hbase⟩
  | arguments _ => cases hmissing
  | backReference _ _ hissue =>
      cases hmissing.symm.trans (backReferenceIssue?_not_isMissing hissue)

/-- What is reported because the type `name` is missing is reported at the fields of this type. -/
theorem mem_validate_isMissing_iff (hunknown : ¬ IsKnown definitions name) {finding : Finding} :
    finding ∈ validate definitions ∧ finding.issue.isMissing name = true
      ↔ ∃ type field, Definition.type type ∈ definitions ∧ type.IsObject
        ∧ type.name.text ≠ "_Schema_" ∧ field ∈ type.fields ∧ field.type.HasBase name
        ∧ finding = type.declaration.finding field.span (.unknownType field.name.text name) := by
  rw [mem_validate_iff]
  constructor
  · rintro ⟨⟨type, hmem, span, issue, hfault, rfl⟩ | ⟨repeated, _, rfl⟩, hmissing⟩
    · cases hfault with
      | importType _ hfault => cases hmissing.symm.trans hfault.not_isMissing
      | entity hobject hname hfault =>
          cases hfault with
          | noEntity _ => cases hmissing
          | noId _ => cases hmissing
          | idType _ _ => cases hmissing
          | imports _ _ => cases hmissing
          | field hfield hfault =>
              obtain ⟨hbase, rfl, rfl⟩ := hfault.of_isMissing hmissing
              exact ⟨type, _, hmem, hobject, hname, hfield, hbase, rfl⟩
    · cases hmissing
  · rintro ⟨type, field, hmem, hobject, hname, hfield, hbase, rfl⟩
    cases TypeExpr.hasBase_iff.mp hbase
    exact ⟨.inl ⟨type, hmem, _, _, .entity hobject hname (.field hfield (.unknown hunknown)), rfl⟩,
      beq_self_eq_true _⟩

/-! ## The schema with the enumeration -/

theorem typeDefinitions_insert :
    typeDefinitions (left ++ .type added :: right)
      = typeDefinitions left ++ added :: typeDefinitions right :=
  typeDefinitions_append

theorem localNames_insert (henum : added.IsEnum) :
    localNames (left ++ .type added :: right)
      = localNames left ++ added.name.text :: localNames right := by
  have husable : added.isUsable = true := TypeDefinition.isUsable_iff.mpr (.inr (.inr henum))
  rw [localNames, typeDefinitions_insert, List.filter_append, List.filter_cons_of_pos husable,
    List.map_append, List.map_cons]
  rfl

theorem importedNames_insert (henum : added.IsEnum) :
    importedNames (left ++ .type added :: right) = importedNames (left ++ right) := by
  have himport : ¬ added.isImportType = true :=
    fun h => henum.not_isObject (TypeDefinition.isImportType_iff.mp h).1
  rw [importedNames, typeDefinitions_insert, List.filter_append, List.filter_cons_of_neg himport,
    ← List.filter_append, ← typeDefinitions_append]
  rfl

theorem entityNamed?_insert (henum : added.IsEnum) :
    entityNamed? (left ++ .type added :: right) = entityNamed? (left ++ right) := by
  funext name
  have hentity : ¬ (added.isEntity && added.name.text == name) = true :=
    fun h => henum.not_isEntity ((isEntity_and_name_iff added).mp h).1
  have hadded : (added :: typeDefinitions right).find?
      (fun type => type.isEntity && type.name.text == name) = entityNamed? right name :=
    List.find?_cons_of_neg hentity
  rw [entityNamed?, typeDefinitions_insert, List.find?_append, hadded, entityNamed?_append]
  rfl

theorem mem_knownNames_insert (henum : added.IsEnum) :
    name ∈ knownNames (left ++ .type added :: right)
      ↔ name = added.name.text ∨ name ∈ knownNames (left ++ right) := by
  simp only [knownNames, localNames_insert henum, importedNames_insert henum, localNames_append,
    List.mem_append, List.mem_cons]
  tauto

/-- The name is new, so it comes up once. -/
theorem checkNames_insert (henum : added.IsEnum)
    (hunknown : ¬ IsKnown (left ++ right) added.name.text) :
    checkNames (left ++ .type added :: right) = checkNames (left ++ right) := by
  have hnew : added.name.text ∉ gatheredNames (left ++ right) :=
    fun h => hunknown (.inr (mem_gatheredNames.mp h))
  rw [gatheredNames, localNames_append, List.append_assoc, List.mem_append, not_or] at hnew
  rw [checkNames_eq_map, checkNames_eq_map, gatheredNames, gatheredNames, localNames_insert henum,
    importedNames_insert henum, localNames_append, List.append_assoc, List.append_assoc,
    List.cons_append, repeatedNames_insert hnew.1 hnew.2]

/-! ## One check after the other -/

theorem checkKnown_insert (henum : added.IsEnum) :
    checkKnown (knownNames (left ++ .type added :: right)) owner field
      = dropMissing added.name.text (checkKnown (knownNames (left ++ right)) owner field) := by
  simp only [checkKnown, List.contains_iff_mem, mem_knownNames_insert henum]
  by_cases hbase : field.type.baseName = added.name.text
  · -- The field has the type that was missing.
    rw [if_pos (.inl hbase)]
    split
    · rfl
    · rw [dropMissing, List.filter_cons_of_neg, List.filter_nil]
      simp [Declaration.finding, Issue.isMissing, hbase]
  · simp only [hbase, false_or]
    refine (dropMissing_eq_self fun finding hmem => ?_).symm
    rw [List.mem_ite_nil_left, List.mem_singleton] at hmem
    rw [hmem.2]
    exact beq_eq_false_iff_ne.mpr hbase

/-- An enumeration is no target of a back-reference and no way back from one. -/
theorem checkBackReferences_insert (henum : added.IsEnum) :
    checkBackReferences (left ++ .type added :: right) owner field
      = checkBackReferences (left ++ right) owner field := by
  have hsummary : (summary (left ++ .type added :: right)).entities
      = (summary (left ++ right)).entities := by
    simp only [summary, entityNamed?_insert henum]
  have hdirective : checkBackReference (left ++ .type added :: right) owner field
      = checkBackReference (left ++ right) owner field := by
    funext directive
    rw [checkBackReference, checkBackReference, backReferenceIssue?_congr hsummary]
  rw [checkBackReferences, checkBackReferences, hdirective]

theorem checkField_insert (henum : added.IsEnum) :
    checkField (left ++ .type added :: right) (knownNames (left ++ .type added :: right)) owner
        field
      = dropMissing added.name.text
          (checkField (left ++ right) (knownNames (left ++ right)) owner field) := by
  have helements : dropMissing added.name.text (checkElements owner field)
      = checkElements owner field := dropMissing_eq_self fun finding hmem => by
    obtain ⟨element, _, rfl⟩ := mem_checkElements_iff.mp hmem
    rfl
  have harguments : dropMissing added.name.text (checkNoArguments owner field)
      = checkNoArguments owner field := dropMissing_eq_self fun finding hmem => by
    obtain ⟨_, rfl⟩ := mem_checkNoArguments_iff.mp hmem
    rfl
  have hback : dropMissing added.name.text (checkBackReferences (left ++ right) owner field)
      = checkBackReferences (left ++ right) owner field :=
    dropMissing_eq_self fun finding hmem => by
      obtain ⟨directive, _, _, issue, hissue, rfl⟩ := mem_checkBackReferences_iff.mp hmem
      exact backReferenceIssue?_not_isMissing hissue
  rw [checkField, checkField, dropMissing_append, dropMissing_append, dropMissing_append,
    helements, checkKnown_insert henum, harguments, checkBackReferences_insert henum, hback]

theorem checkEntity_insert (henum : added.IsEnum) :
    checkEntity (left ++ .type added :: right) owner
      = dropMissing added.name.text (checkEntity (left ++ right) owner) := by
  have hentity : dropMissing added.name.text (checkEntityDirective owner)
      = checkEntityDirective owner := dropMissing_eq_self fun finding hmem => by
    obtain ⟨_, rfl⟩ := mem_checkEntityDirective_iff.mp hmem
    rfl
  have hid : dropMissing added.name.text (checkId owner) = checkId owner :=
    dropMissing_eq_self fun finding hmem => by
      rcases mem_checkId_iff.mp hmem with ⟨_, rfl⟩ | ⟨field, _, _, rfl⟩
      · rfl
      · rfl
  have himport : dropMissing added.name.text (checkNoImport owner) = checkNoImport owner :=
    dropMissing_eq_self fun finding hmem => by
      obtain ⟨_, rfl⟩ := mem_checkNoImport_iff.mp hmem
      rfl
  have hfields : checkField (left ++ .type added :: right)
        (knownNames (left ++ .type added :: right)) owner
      = fun field => dropMissing added.name.text
          (checkField (left ++ right) (knownNames (left ++ right)) owner field) :=
    funext fun _ => checkField_insert henum
  rw [checkEntity, checkEntity, dropMissing_append, dropMissing_append, dropMissing_append,
    dropMissing_flatMap, hentity, hid, himport, hfields]

theorem checkDefinition_insert (henum : added.IsEnum) (definition : Definition) :
    checkDefinition (left ++ .type added :: right) definition
      = dropMissing added.name.text (checkDefinition (left ++ right) definition) := by
  cases definition with
  | type type =>
      by_cases himport : type.IsImportType
      · rw [checkDefinition_of_isImportType himport, checkDefinition_of_isImportType himport]
        refine (dropMissing_eq_self fun finding hmem => ?_).symm
        obtain ⟨span, issue, hfault, rfl⟩ := mem_checkImportType_iff.mp hmem
        exact hfault.not_isMissing
      · by_cases hobject : type.IsObject
        · have hname : type.name.text ≠ "_Schema_" := fun hname => himport ⟨hobject, hname⟩
          rw [checkDefinition_of_isObject hobject hname, checkDefinition_of_isObject hobject hname,
            checkEntity_insert henum]
        · rw [checkDefinition_of_not_isObject hobject, checkDefinition_of_not_isObject hobject]
          rfl
  | typeExtension _ => rfl
  | schema _ => rfl
  | schemaExtension _ => rfl
  | directive _ => rfl

/-- **Declaring a missing type removes what was reported because it was missing, and nothing
else.**  Wherever an enumeration of a new name is put, what is found is what was found before, in
its order, less the findings that fields have an unknown type of this name; and there was one of
these for every such field. -/
theorem validate_insert_enum (henum : added.IsEnum) (hname : added.name.text = name)
    (hunknown : ¬ IsKnown (left ++ right) name) :
    validate (left ++ .type added :: right)
        = (validate (left ++ right)).filter (fun finding => !finding.issue.isMissing name)
      ∧ ∀ finding, finding ∈ validate (left ++ right) ∧ finding.issue.isMissing name = true
          ↔ ∃ type field, Definition.type type ∈ left ++ right ∧ type.IsObject
            ∧ type.name.text ≠ "_Schema_" ∧ field ∈ type.fields ∧ field.type.HasBase name
            ∧ finding
              = type.declaration.finding field.span (.unknownType field.name.text name) := by
  subst hname
  refine ⟨?_, fun finding => mem_validate_isMissing_iff hunknown⟩
  have hnames : dropMissing added.name.text (checkNames (left ++ right))
      = checkNames (left ++ right) := dropMissing_eq_self fun finding hmem => by
    rw [checkNames_eq_map] at hmem
    obtain ⟨repeated, _, rfl⟩ := List.mem_map.mp hmem
    rfl
  have hadded : checkDefinition (left ++ right) (.type added) = [] :=
    checkDefinition_of_not_isObject henum.not_isObject
  rw [← dropMissing, validate, validate, dropMissing_append, dropMissing_flatMap, hnames,
    checkNames_insert henum hunknown, funext (checkDefinition_insert henum),
    List.flatMap_append, List.flatMap_append, List.flatMap_cons, hadded]
  rfl

/-! ## A small schema -/

/-- An entity with a field at fault twice: its elements may be null, and their type is missing. -/
def poolWithTiers : List Definition :=
  [.type (Bare.entity "Pool" [Bare.field "tiers" (Bare.listOf (Bare.named "Tier")) []])]

def tier : TypeDefinition := ⟨none, none, Bare.name "Tier", [], .enum []⟩

theorem validate_insert_tier :
    tier.IsEnum ∧ tier.name.text = "Tier" ∧ ¬ IsKnown (poolWithTiers ++ []) "Tier"
      ∧ (validate (poolWithTiers ++ .type tier :: [])).map Finding.issue
        = [.nullableElements "tiers" "Tier" false] := by
  have henum : tier.IsEnum := ⟨_, rfl⟩
  have hname : tier.name.text = "Tier" := rfl
  have hunknown : ¬ IsKnown (poolWithTiers ++ []) "Tier" := by
    rw [← mem_knownNames]
    decide
  have hvalidate := (validate_insert_enum henum hname hunknown).1
  exact ⟨henum, hname, hunknown, congrArg (List.map Finding.issue) hvalidate⟩

end EntitySchema
