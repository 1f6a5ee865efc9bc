/-
# `EntitySchema.Proofs.Import` — what the rules ask of the import type

The import type has no fields and carries imports only.  What an import imports is the list under
its first argument `types`, of strings and of objects with two fields that may only be called `name`
and `as`; where it imports from is the object under its first argument `from`, with one field `name`
or `id`.  All of these fields hold strings.  The checks of the import type are silent exactly if it
keeps the rules.
-/
import EntitySchema.Proofs.BackReference
import EntitySchema.Rule.Import
import Mathlib.Data.List.Basic

namespace EntitySchema

/-- A field of an object literal that has one of two names and holds a string. -/
def ObjectField.IsStringUnder (field : ObjectField) (first second : String) : Prop :=
  (field.name.text = first ∨ field.name.text = second) ∧ ∃ literal, field.value = .string literal

/-- What an import may list: a string, or an object with two strings under `name` or `as`. -/
inductive Value.IsImportEntry : Value → Prop
  | string {literal : StringLiteral} : IsImportEntry (.string literal)
  | object {span : Option Span} {left right : ObjectField} :
      left.IsStringUnder "name" "as" → right.IsStringUnder "name" "as" →
      IsImportEntry (.object span [left, right])

/-- Where an import may import from: an object with one string, under `name` or `id`. -/
inductive Value.IsImportSource : Value → Prop
  | object {span : Option Span} {field : ObjectField} :
      field.IsStringUnder "name" "id" → IsImportSource (.object span [field])

/-- What the rules ask of an import. -/
structure ImportRules (directive : Directive) : Prop where
  types : ∃ items, directive.Lists items ∧ ∀ item ∈ items, item.IsImportEntry
  source : ∃ argument, First (·.name.text = "from") directive.arguments argument
    ∧ argument.value.IsImportSource

/-- What the rules ask of the import type. -/
structure ImportTypeRules (owner : Declaration) : Prop where
  noFields : owner.fields = []
  directives : ∀ directive ∈ owner.directives,
    directive.name.text = "import" ∧ ImportRules directive

variable {owner : Declaration} {directive : Directive}

/-! ## Entries -/

theorem isString_iff {value : Value} :
    value.isString = true ↔ ∃ literal, value = .string literal := by
  constructor
  · intro h
    cases value with
    | string literal => exact ⟨literal, rfl⟩
    | _ => cases h
  · rintro ⟨literal, rfl⟩
    rfl

/-- The two rules on fields, that of an entry and that of a source, differ in the names they allow
and in what they report. -/
theorem fieldIssue?_eq_none_iff {field : ObjectField} {first second : String}
    {wrongValue wrongName : Issue} :
    (if field.name.text = first ∨ field.name.text = second then
        if field.value.isString then none else some wrongValue
      else some wrongName) = none
      ↔ field.IsStringUnder first second := by
  rw [ObjectField.IsStringUnder, ← isString_iff]
  by_cases hname : field.name.text = first ∨ field.name.text = second
  · rw [if_pos hname, and_iff_right hname]
    cases field.value.isString with
    | true => exact ⟨fun _ => rfl, fun _ => rfl⟩
    | false => exact ⟨fun h => (nomatch h), fun h => (nomatch h)⟩
  · rw [if_neg hname]
    exact ⟨fun h => (nomatch h), fun h => absurd h.1 hname⟩

theorem eq_of_fieldIssue?_eq_some {field : ObjectField} {first second : String}
    {wrongValue wrongName issue : Issue}
    (h : (if field.name.text = first ∨ field.name.text = second then
        if field.value.isString then none else some wrongValue
      else some wrongName) = some issue) : issue = wrongValue ∨ issue = wrongName := by
  split at h
  · split at h
    · cases h
    · exact .inl (Option.some.inj h).symm
  · exact .inr (Option.some.inj h).symm

theorem importedFieldIssue?_eq_none_iff {field : ObjectField} :
    importedFieldIssue? field = none ↔ field.IsStringUnder "name" "as" :=
  fieldIssue?_eq_none_iff

theorem sourceFieldIssue?_eq_none_iff {field : ObjectField} :
    sourceFieldIssue? field = none ↔ field.IsStringUnder "name" "id" :=
  fieldIssue?_eq_none_iff

theorem importedTypeIssues_eq_nil_iff {value : Value} :
    importedTypeIssues value = [] ↔ value.IsImportEntry := by
  cases value with
  | string literal => exact ⟨fun _ => .string, fun _ => rfl⟩
  | object span fields =>
      rw [importedTypeIssues]
      constructor
      · intro h
        split at h
        next hlength =>
          obtain ⟨left, right, rfl⟩ := List.length_eq_two.mp hlength
          have hnone := List.filterMap_eq_nil_iff.mp h
          exact .object
            (importedFieldIssue?_eq_none_iff.mp (hnone left (by simp)))
            (importedFieldIssue?_eq_none_iff.mp (hnone right (by simp)))
        next => cases h
      · intro h
        cases h with
        | @object _ left right hleft hright =>
            have hlength : [left, right].length = 2 := rfl
            rw [if_pos hlength,
              List.filterMap_cons_none (importedFieldIssue?_eq_none_iff.mpr hleft),
              List.filterMap_cons_none (importedFieldIssue?_eq_none_iff.mpr hright)]
            rfl
  | _ => exact ⟨fun h => (nomatch h), fun h => (nomatch h)⟩

/-! ## Imports -/

theorem importTypesIssues_eq_nil_iff :
    importTypesIssues (Argument.find? directive.arguments "types") = []
      ↔ ∃ items, directive.Lists items ∧ ∀ item ∈ items, item.IsImportEntry := by
  constructor
  · intro h
    cases hfind : Argument.find? directive.arguments "types" with
    | none =>
        rw [hfind] at h
        cases h
    | some argument =>
        rw [hfind, importTypesIssues] at h
        split at h
        next span items hvalue =>
          refine ⟨items, ⟨argument, span, Argument.find?_eq_some_iff.mp hfind, hvalue⟩, ?_⟩
          intro item hitem
          exact importedTypeIssues_eq_nil_iff.mp (List.flatMap_eq_nil_iff.mp h item hitem)
        next => cases h
  · rintro ⟨items, ⟨argument, span, hfirst, hvalue⟩, hentries⟩
    rw [Argument.find?_eq_some_iff.mpr hfirst, importTypesIssues, hvalue]
    exact List.flatMap_eq_nil_iff.mpr fun item hitem =>
      importedTypeIssues_eq_nil_iff.mpr (hentries item hitem)

theorem checkImportSource_eq_nil_iff :
    checkImportSource owner directive (Argument.find? directive.arguments "from") = []
      ↔ ∃ argument, First (·.name.text = "from") directive.arguments argument
          ∧ argument.value.IsImportSource := by
  constructor
  · intro h
    cases hfind : Argument.find? directive.arguments "from" with
    | none =>
        rw [hfind] at h
        cases h
    | some argument =>
        refine ⟨argument, Argument.find?_eq_some_iff.mp hfind, ?_⟩
        rw [hfind, checkImportSource] at h
        split at h
        next span field hvalue =>
          rw [List.map_eq_nil_iff, Option.toList_eq_nil_iff, sourceFieldIssue?_eq_none_iff] at h
          rw [hvalue]
          exact .object h
        next => cases h
        next => cases h
  · rintro ⟨argument, hfirst, hsource⟩
    rw [Argument.find?_eq_some_iff.mpr hfirst, checkImportSource]
    generalize argument.value = value at hsource
    cases hsource with
    | object hfield =>
        rw [List.map_eq_nil_iff, Option.toList_eq_nil_iff, sourceFieldIssue?_eq_none_iff]
        exact hfield

theorem checkImport_eq_nil_iff : checkImport owner directive = [] ↔ ImportRules directive := by
  rw [checkImport, List.append_eq_nil_iff, List.map_eq_nil_iff, importTypesIssues_eq_nil_iff,
    checkImportSource_eq_nil_iff]
  constructor
  · rintro ⟨htypes, hsource⟩
    exact ⟨htypes, hsource⟩
  · intro h
    exact ⟨h.types, h.source⟩

/-! ## The import type -/

theorem checkImportTypeDirective_eq_nil_iff :
    checkImportTypeDirective owner directive = []
      ↔ directive.name.text = "import" ∧ ImportRules directive := by
  rw [checkImportTypeDirective]
  by_cases hname : directive.name.text = "import"
  · rw [if_pos hname, checkImport_eq_nil_iff, and_iff_right hname]
  · rw [if_neg hname]
    exact ⟨fun h => (nomatch h), fun h => absurd h.1 hname⟩

theorem checkImportType_eq_nil_iff : checkImportType owner = [] ↔ ImportTypeRules owner := by
  rw [checkImportType, List.append_eq_nil_iff, checkNoFields, unless_eq_nil_iff, List.isEmpty_iff,
    List.flatMap_eq_nil_iff]
  simp only [checkImportTypeDirective_eq_nil_iff]
  constructor
  · rintro ⟨hfields, hdirectives⟩
    exact ⟨hfields, hdirectives⟩
  · intro h
    exact ⟨h.noFields, h.directives⟩

end EntitySchema
