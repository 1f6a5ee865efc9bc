/-
# `EntitySchema.Proofs.RenamedFindings` — the names of types carry no hidden meaning

A schema under other names has the same findings: as many, in the same order and at the same places,
each about the same type under its other name (`validate_rename`).  Every check either does not look
at the names of types or compares them with each other, with the names of the built-in scalars, or
with that of the import type, and a renaming respects such comparisons.  Only the wording of a
finding has the other names in it, and a hint at a built-in scalar may come or go.

The proof has one lemma for each check, and follows the way in which the checks are put together.
-/
import EntitySchema.Proofs.Bare
import EntitySchema.Proofs.Renaming
import Mathlib.Logic.Equiv.Basic

namespace EntitySchema

/-- The place of a finding and the type that it belongs to. -/
def Finding.site (finding : Finding) : Span × String := (finding.location, finding.entity)

/-- The place of a finding and the other name of the type that it belongs to. -/
def Finding.renamedSite (r : String → String) (finding : Finding) : Span × String :=
  (finding.location, r finding.entity)

/-- `SameSites r renamed original`: the findings are as many, and one by one they stand at the same
place and belong to the same type, under its other name. -/
def SameSites (r : String → String) (renamed original : List Finding) : Prop :=
  renamed.map Finding.site = original.map (Finding.renamedSite r)

variable {r : String → String} {definitions : List Definition} {owner : Declaration} {field : Field}

/-! ## How findings are put together -/

namespace SameSites

theorem nil : SameSites r [] [] := rfl

theorem finding {span : Option Span} {issue issue' : Issue} :
    SameSites r [(owner.rename r).finding span issue'] [owner.finding span issue] := rfl

theorem append {renamed renamed' original original' : List Finding}
    (h : SameSites r renamed original) (h' : SameSites r renamed' original') :
    SameSites r (renamed ++ renamed') (original ++ original') := by
  rw [SameSites, List.map_append, List.map_append, h, h']

theorem flatMap {α : Type} {l : List α} {renamed original : α → List Finding}
    (h : ∀ a, SameSites r (renamed a) (original a)) :
    SameSites r (l.flatMap renamed) (l.flatMap original) := by
  induction l with
  | nil => exact nil
  | cons a rest ih =>
      rw [List.flatMap_cons, List.flatMap_cons]
      exact (h a).append ih

theorem flatMap_map {α β : Type} {l : List α} {f : α → β} {renamed : β → List Finding}
    {original : α → List Finding} (h : ∀ a, SameSites r (renamed (f a)) (original a)) :
    SameSites r ((l.map f).flatMap renamed) (l.flatMap original) := by
  rw [List.flatMap_map]
  exact flatMap h

/-- Two checks that report unless their rules are kept. -/
theorem rule {rule rule' : Prop} [Decidable rule] [Decidable rule'] {span : Option Span}
    {issue issue' : Issue} (h : rule' ↔ rule) :
    SameSites r (if rule' then [] else [(owner.rename r).finding span issue'])
      (if rule then [] else [owner.finding span issue]) := by
  by_cases hrule : rule
  · rw [if_pos hrule, if_pos (h.mpr hrule)]
    exact nil
  · rw [if_neg hrule, if_neg (mt h.mp hrule)]
    exact finding

/-- What is wrong may differ, as long as as much is wrong. -/
theorem issues {issues issues' : List Issue} {span : Option Span}
    (h : issues'.length = issues.length) :
    SameSites r (issues'.map ((owner.rename r).finding span))
      (issues.map (owner.finding span)) := by
  have hrenamed : Finding.site ∘ (owner.rename r).finding span
      = fun _ => (Span.orPlaceholder span, r owner.name.text) := rfl
  have horiginal : Finding.renamedSite r ∘ owner.finding span
      = fun _ => (Span.orPlaceholder span, r owner.name.text) := rfl
  rw [SameSites, List.map_map, List.map_map, hrenamed, horiginal, List.map_const', List.map_const',
    h]

/-- The same for what is at most one issue. -/
theorem issue {issue issue' : Option Issue} {span : Option Span}
    (h : issue'.isSome = issue.isSome) :
    SameSites r (issue'.toList.map ((owner.rename r).finding span))
      (issue.toList.map (owner.finding span)) := by
  refine issues ?_
  rw [Option.length_toList, Option.length_toList, h]

end SameSites

/-! ## Back-references -/

/-- Back-references are no imports, so a renaming leaves them as they are. -/
theorem filter_derivedFrom_rename {directives : List Directive} :
    (directives.map (Directive.renameImports r)).filter (·.name.text == "derivedFrom")
      = directives.filter (·.name.text == "derivedFrom") := by
  rw [filter_map_of_forall fun directive => by rw [name_renameImports]]
  refine (List.map_congr_left fun directive hmem => ?_).trans (List.map_id _)
  have hname : directive.name.text = "derivedFrom" := beq_iff_eq.mp (List.mem_filter.mp hmem).2
  have himport : ¬ directive.name.text = "import" := by
    rw [hname]
    decide
  rw [Directive.renameImports, if_neg himport, id]

theorem isSome_sourceIssue?_rename (h : IsRenaming r) {origin field source : String}
    {target : TypeDefinition} :
    (sourceIssue? (definitions.map (Definition.rename r)) (r origin) field source
        (target.rename r)).isSome
      = (sourceIssue? definitions origin field source target).isSome := by
  rw [sourceIssue?_eq, sourceIssue?_eq, lookup_fieldBases_rename]
  cases target.fieldBases.lookup source with
  | none => rfl
  | some base =>
      simp only [Option.map_some, entityNamed?_rename h, Option.isSome_map, h.injective.eq_iff]
      split
      next => rfl
      next => rfl

theorem isSome_backReferenceIssue?_rename (h : IsRenaming r) {origin : String}
    {directive : Directive} :
    (backReferenceIssue? (definitions.map (Definition.rename r)) (r origin) (field.rename r)
        directive).isSome
      = (backReferenceIssue? definitions origin field directive).isSome := by
  by_cases hform : ∃ source, directive.Names source
  · obtain ⟨source, hnames⟩ := hform
    have hbase : (field.rename r).type.baseName = r field.type.baseName :=
      TypeExpr.baseName_rename
    rw [backReferenceIssue?_of_names hnames, backReferenceIssue?_of_names hnames, hbase,
      entityNamed?_rename h]
    cases entityNamed? definitions field.type.baseName with
    | none => rfl
    | some target => exact isSome_sourceIssue?_rename h
  · have hsome {definitions : List Definition} {origin : String} {field : Field} :
        (backReferenceIssue? definitions origin field directive).isSome = true :=
      Option.isSome_iff_ne_none.mpr fun hnone =>
        hform (exists_names_of_backReferenceIssue?_eq_none hnone)
    rw [hsome, hsome]

theorem checkBackReferences_rename (h : IsRenaming r) :
    SameSites r
      (checkBackReferences (definitions.map (Definition.rename r)) (owner.rename r)
        (field.rename r))
      (checkBackReferences definitions owner field) := by
  rw [checkBackReferences, Field.rename, filter_derivedFrom_rename]
  exact SameSites.flatMap fun _ => SameSites.issue (isSome_backReferenceIssue?_rename h)

/-! ## Fields -/

theorem checkElements_rename :
    SameSites r (checkElements (owner.rename r) (field.rename r)) (checkElements owner field) := by
  have hnullable : (field.rename r).type.nullableElement?
      = field.type.nullableElement?.map (TypeExpr.rename r) := TypeExpr.nullableElement?_rename
  rw [checkElements, checkElements, hnullable]
  cases field.type.nullableElement? with
  | none => exact SameSites.nil
  | some element => exact SameSites.finding

theorem checkKnown_rename (h : IsRenaming r) :
    SameSites r
      (checkKnown (knownNames (definitions.map (Definition.rename r))) (owner.rename r)
        (field.rename r))
      (checkKnown (knownNames definitions) owner field) := by
  have hbase : (field.rename r).type.baseName = r field.type.baseName := TypeExpr.baseName_rename
  refine SameSites.rule ?_
  rw [List.contains_iff_mem, List.contains_iff_mem, knownNames_rename h, hbase,
    List.mem_map_of_injective h.injective]

theorem checkNoArguments_rename :
    SameSites r (checkNoArguments (owner.rename r) (field.rename r))
      (checkNoArguments owner field) := by
  refine SameSites.rule ?_
  rw [Field.rename, List.isEmpty_map]

theorem checkField_rename (h : IsRenaming r) :
    SameSites r
      (checkField (definitions.map (Definition.rename r))
        (knownNames (definitions.map (Definition.rename r))) (owner.rename r) (field.rename r))
      (checkField definitions (knownNames definitions) owner field) :=
  ((checkElements_rename.append (checkKnown_rename h)).append checkNoArguments_rename).append
    (checkBackReferences_rename h)

/-! ## Entities -/

theorem checkEntityDirective_rename :
    SameSites r (checkEntityDirective (owner.rename r)) (checkEntityDirective owner) := by
  refine SameSites.rule ?_
  rw [Declaration.rename, has_renameImports]

theorem checkId_rename (h : IsRenaming r) :
    SameSites r (checkId (owner.rename r)) (checkId owner) := by
  have hfind : Field.find? (owner.rename r).fields "id"
      = (Field.find? owner.fields "id").map (Field.rename r) := field_find?_rename
  rw [checkId, checkId, hfind]
  cases Field.find? owner.fields "id" with
  | none => exact SameSites.finding
  | some field =>
      have hid : (field.rename r).type.isIdentifier = field.type.isIdentifier :=
        TypeExpr.isIdentifier_rename h
      refine SameSites.rule ?_
      rw [hid]

theorem checkNoImport_rename :
    SameSites r (checkNoImport (owner.rename r)) (checkNoImport owner) := by
  rw [checkNoImport, checkNoImport, ← ite_not,
    ← ite_not (p := Directive.has owner.directives _ = true)]
  refine SameSites.rule ?_
  rw [Declaration.rename, has_renameImports]

theorem checkEntity_rename (h : IsRenaming r) :
    SameSites r (checkEntity (definitions.map (Definition.rename r)) (owner.rename r))
      (checkEntity definitions owner) :=
  ((checkEntityDirective_rename.append (checkId_rename h)).append
    (SameSites.flatMap_map fun _ => checkField_rename h)).append checkNoImport_rename

/-! ## The import type -/

theorem checkNoFields_rename :
    SameSites r (checkNoFields (owner.rename r)) (checkNoFields owner) := by
  refine SameSites.rule ?_
  rw [Declaration.rename, List.isEmpty_map]

theorem checkImportSource_rename {directive : Directive} {argument : Option Argument} :
    SameSites r (checkImportSource (owner.rename r) (directive.renameImports r) argument)
      (checkImportSource owner directive argument) := by
  cases argument with
  | none =>
      rw [checkImportSource, checkImportSource, name_renameImports]
      exact SameSites.finding
  | some argument =>
      simp only [checkImportSource, name_renameImports]
      split
      next => exact SameSites.issue rfl
      next => exact SameSites.finding
      next => exact SameSites.finding

theorem checkImport_rename {directive : Directive} (himport : directive.name.text = "import") :
    SameSites r (checkImport (owner.rename r) (directive.renameImports r))
      (checkImport owner directive) := by
  have harguments : (directive.renameImports r).arguments
      = directive.arguments.map (Argument.renameEntries r) := by
    rw [Directive.renameImports, if_pos himport]
  rw [checkImport, checkImport, harguments, importTypesIssues_renameEntries,
    find?_from_renameEntries, name_renameImports]
  exact (SameSites.issues rfl).append checkImportSource_rename

theorem checkImportType_rename :
    SameSites r (checkImportType (owner.rename r)) (checkImportType owner) := by
  refine checkNoFields_rename.append (SameSites.flatMap_map fun directive => ?_)
  rw [checkImportTypeDirective, checkImportTypeDirective, name_renameImports]
  by_cases himport : directive.name.text = "import"
  · rw [if_pos himport, if_pos himport]
    exact checkImport_rename himport
  · rw [if_neg himport, if_neg himport]
    exact SameSites.finding

/-! ## Schemas -/

theorem checkDefinition_rename (h : IsRenaming r) {definition : Definition} :
    SameSites r
      (checkDefinition (definitions.map (Definition.rename r)) (definition.rename r))
      (checkDefinition definitions definition) := by
  cases definition with
  | type type =>
      rw [Definition.rename, checkDefinition, checkDefinition,
        TypeDefinition.isImportType_rename h, TypeDefinition.isObject_rename,
        TypeDefinition.declaration_rename]
      split
      next => exact checkImportType_rename
      next =>
        split
        next => exact checkEntity_rename h
        next => exact SameSites.nil
  | typeExtension _ => exact SameSites.nil
  | schema _ => exact SameSites.nil
  | schemaExtension _ => exact SameSites.nil
  | directive _ => exact SameSites.nil

theorem checkNames_rename (h : IsRenaming r) :
    SameSites r (checkNames (definitions.map (Definition.rename r))) (checkNames definitions) := by
  rw [checkNames_eq_map, checkNames_eq_map, gatheredNames_rename h, repeatedNames_map h.injective,
    SameSites, List.map_map, List.map_map, List.map_map]
  rfl

/-- **Names of types carry no hidden meaning.**  Under other names a schema has as many findings,
in the same order and at the same places, each about the same type under its other name. -/
theorem validate_rename (h : IsRenaming r) (definitions : List Definition) :
    (validate (definitions.map (Definition.rename r))).map Finding.site
      = (validate definitions).map (Finding.renamedSite r) :=
  (SameSites.flatMap_map fun _ => checkDefinition_rename h).append (checkNames_rename h)

/-! ## A small schema -/

section Schemas

open Bare

/-- Two entities: one has a field of an unknown type, the other a back-reference that leads
nowhere. -/
def faultyPools : List Definition :=
  [.type (entity "Pool" [Bare.field "owner" (named "Owner") []]),
    .type (entity "Swap" [Bare.field "pool" (named "Pool") [derivedFrom "swaps"]])]

end Schemas

theorem isRenaming_swap : IsRenaming (Equiv.swap "Pool" "Swap") where
  injective := Equiv.injective _
  scalar scalar := by
    cases scalar <;> exact Equiv.swap_apply_of_ne_of_ne (by decide) (by decide)
  importType := Equiv.swap_apply_of_ne_of_ne (by decide) (by decide)

theorem validate_rename_faultyPools :
    IsRenaming (Equiv.swap "Pool" "Swap") ∧ (validate faultyPools).map (·.entity) = ["Pool", "Swap"]
      ∧ (validate (faultyPools.map (Definition.rename (Equiv.swap "Pool" "Swap")))).map Finding.site
        = (validate faultyPools).map (Finding.renamedSite (Equiv.swap "Pool" "Swap")) :=
  ⟨isRenaming_swap, rfl, validate_rename isRenaming_swap faultyPools⟩

end EntitySchema
