/-
# `EntitySchema.Proofs.ImportReport` — everything that is reported of an import

An import is at fault in what it imports, in where it imports from, or in both, and one part of it
never hides another.  Of what it imports every entry is judged by itself, and if the entry has two
fields, so is each of them; of its source at most one thing is reported, since that has one field
only.  `TypesReport` and `SourceReport` say what is reported, with one constructor for each form
that the arguments can have, and without the functions that look at them.  What is found in an import
is these reports, in order (`checkImport_eq_iff_reports`).
-/
import EntitySchema.Proofs.Import
import Mathlib.Data.List.Forall2

namespace EntitySchema

/-! ## What the entries of a list are at fault in -/

/-- What is reported of a field of an entry. -/
inductive EntryFieldReport (field : ObjectField) : List Issue → Prop
  | fine :
      field.IsStringUnder "name" "as" → EntryFieldReport field []
  | name :
      field.name.text ≠ "name" → field.name.text ≠ "as" →
      EntryFieldReport field [.importedTypeField field.name.text]
  | value :
      (field.name.text = "name" ∨ field.name.text = "as") →
      (∀ literal, field.value ≠ .string literal) →
      EntryFieldReport field [.importedTypeValue]

/-- What is reported of an entry. -/
inductive EntryReport : Value → List Issue → Prop
  | string {literal : StringLiteral} : EntryReport (.string literal) []
  | shape {value : Value} :
      (∀ literal, value ≠ .string literal) →
      (∀ span left right, value ≠ .object span [left, right]) →
      EntryReport value [.importedTypeShape]
  | fields {span : Option Span} {left right : ObjectField} {ofLeft ofRight : List Issue} :
      EntryFieldReport left ofLeft → EntryFieldReport right ofRight →
      EntryReport (.object span [left, right]) (ofLeft ++ ofRight)

/-- What is reported of the things that an import imports. -/
inductive TypesReport (directive : Directive) : List Issue → Prop
  | missing :
      (∀ argument ∈ directive.arguments, argument.name.text ≠ "types") →
      TypesReport directive [.importTypesMissing]
  | value {argument : Argument} :
      First (·.name.text = "types") directive.arguments argument →
      (∀ span items, argument.value ≠ .list span items) →
      TypesReport directive [.importTypesValue]
  | entries {items : List Value} {reports : List (List Issue)} :
      directive.Lists items → List.Forall₂ EntryReport items reports →
      TypesReport directive reports.flatten

/-! ## What a source is at fault in -/

/-- What is reported of the source of an import, and at which node. -/
inductive SourceReport (directive : Directive) : Option (Option Span × Issue) → Prop
  | fine {argument : Argument} :
      First (·.name.text = "from") directive.arguments argument → argument.value.IsImportSource →
      SourceReport directive none
  | missing :
      (∀ argument ∈ directive.arguments, argument.name.text ≠ "from") →
      SourceReport directive (some (directive.name.span, .importSourceMissing))
  | value {argument : Argument} :
      First (·.name.text = "from") directive.arguments argument →
      (∀ span fields, argument.value ≠ .object span fields) →
      SourceReport directive (some (directive.name.span, .importSourceValue))
  | size {argument : Argument} {span : Option Span} {fields : List ObjectField} :
      First (·.name.text = "from") directive.arguments argument →
      argument.value = .object span fields → fields.length ≠ 1 →
      SourceReport directive (some (directive.name.span, .importSourceSize))
  | fieldName {argument : Argument} {span : Option Span} {field : ObjectField} :
      First (·.name.text = "from") directive.arguments argument →
      argument.value = .object span [field] →
      field.name.text ≠ "name" → field.name.text ≠ "id" →
      SourceReport directive (some (field.name.span, .importSourceField))
  | fieldValue {argument : Argument} {span : Option Span} {field : ObjectField} :
      First (·.name.text = "from") directive.arguments argument →
      argument.value = .object span [field] →
      (field.name.text = "name" ∨ field.name.text = "id") →
      (∀ literal, field.value ≠ .string literal) →
      SourceReport directive (some (field.name.span, .importSourceFieldValue))

variable {owner : Declaration} {directive : Directive} {field : ObjectField} {value : Value}
  {issues : List Issue}

/-! ## Entries -/

theorem entryFieldReport_iff :
    EntryFieldReport field issues ↔ (importedFieldIssue? field).toList = issues := by
  constructor
  · intro h
    cases h with
    | fine hfine => rw [importedFieldIssue?_eq_none_iff.mpr hfine, Option.toList_none]
    | name hname has =>
        rw [importedFieldIssue?, if_neg (not_or.mpr ⟨hname, has⟩), Option.toList_some]
    | value hname hvalue =>
        have hstring : ¬ field.value.isString = true := fun hstring => by
          obtain ⟨literal, hliteral⟩ := isString_iff.mp hstring
          exact hvalue literal hliteral
        rw [importedFieldIssue?, if_pos hname, if_neg hstring, Option.toList_some]
  · rintro rfl
    by_cases hname : field.name.text = "name" ∨ field.name.text = "as"
    · by_cases hstring : ∃ literal, field.value = .string literal
      · have hfine : field.IsStringUnder "name" "as" := ⟨hname, hstring⟩
        rw [importedFieldIssue?_eq_none_iff.mpr hfine]
        exact .fine hfine
      · rw [importedFieldIssue?, if_pos hname, if_neg (mt isString_iff.mp hstring)]
        exact .value hname (not_exists.mp hstring)
    · rw [importedFieldIssue?, if_neg hname]
      exact .name (not_or.mp hname).1 (not_or.mp hname).2

theorem filterMap_pair {α β : Type} (f : α → Option β) (left right : α) :
    [left, right].filterMap f = (f left).toList ++ (f right).toList := by
  cases hleft : f left <;> cases hright : f right <;> simp [hleft, hright]

theorem EntryReport.eq (h : EntryReport value issues) : importedTypeIssues value = issues := by
  cases h with
  | string => rfl
  | shape hstring hobject =>
      cases value with
      | string literal => exact absurd rfl (hstring literal)
      | object span fields =>
          refine if_neg fun hlength => ?_
          obtain ⟨left, right, rfl⟩ := List.length_eq_two.mp hlength
          exact hobject span left right rfl
      | _ => rfl
  | @fields span left right ofLeft ofRight hleft hright =>
      have hlength : [left, right].length = 2 := rfl
      rw [importedTypeIssues, if_pos hlength, filterMap_pair, entryFieldReport_iff.mp hleft,
        entryFieldReport_iff.mp hright]

theorem exists_entryReport (value : Value) : ∃ issues, EntryReport value issues := by
  by_cases hstring : ∃ literal, value = .string literal
  · obtain ⟨literal, rfl⟩ := hstring
    exact ⟨_, .string⟩
  · by_cases hobject : ∃ span left right, value = .object span [left, right]
    · obtain ⟨span, left, right, rfl⟩ := hobject
      exact ⟨_, .fields (entryFieldReport_iff.mpr rfl) (entryFieldReport_iff.mpr rfl)⟩
    · simp only [not_exists] at hstring hobject
      exact ⟨_, .shape hstring hobject⟩

theorem entryReport_iff : EntryReport value issues ↔ importedTypeIssues value = issues := by
  refine ⟨EntryReport.eq, ?_⟩
  rintro rfl
  obtain ⟨issues, hreport⟩ := exists_entryReport value
  rw [hreport.eq]
  exact hreport

/-- The entries of a list are judged one by one. -/
theorem forall₂_entryReport_iff {items : List Value} {reports : List (List Issue)} :
    List.Forall₂ EntryReport items reports ↔ items.map importedTypeIssues = reports := by
  rw [← List.forall₂_eq_eq_eq, List.forall₂_map_left_iff]
  constructor
  · intro h
    exact h.imp fun _ _ => entryReport_iff.mp
  · intro h
    exact h.imp fun _ _ => entryReport_iff.mpr

/-! ## What is imported -/

theorem TypesReport.eq (h : TypesReport directive issues) :
    importTypesIssues (Argument.find? directive.arguments "types") = issues := by
  cases h with
  | missing hmissing => rw [Argument.find?_eq_none_iff.mpr hmissing, importTypesIssues]
  | value hfirst hvalue =>
      rw [Argument.find?_eq_some_iff.mpr hfirst, importTypesIssues]
      split
      next span items hlist => exact absurd hlist (hvalue span items)
      next => rfl
  | entries hlists hreports =>
      obtain ⟨argument, span, hfirst, hlist⟩ := hlists
      rw [Argument.find?_eq_some_iff.mpr hfirst, importTypesIssues, hlist,
        ← forall₂_entryReport_iff.mp hreports, ← List.flatMap_def]

theorem exists_typesReport (directive : Directive) : ∃ issues, TypesReport directive issues := by
  cases hfind : Argument.find? directive.arguments "types" with
  | none => exact ⟨_, .missing (Argument.find?_eq_none_iff.mp hfind)⟩
  | some argument =>
      have hfirst := Argument.find?_eq_some_iff.mp hfind
      by_cases hlist : ∃ span items, argument.value = .list span items
      · obtain ⟨span, items, hlist⟩ := hlist
        exact ⟨_, .entries ⟨argument, span, hfirst, hlist⟩ (forall₂_entryReport_iff.mpr rfl)⟩
      · simp only [not_exists] at hlist
        exact ⟨_, .value hfirst hlist⟩

/-! ## The source -/

variable {source? : Option (Option Span × Issue)}

theorem SourceReport.eq (h : SourceReport directive source?) :
    checkImportSource owner directive (Argument.find? directive.arguments "from")
      = source?.toList.map fun source => owner.finding source.1 source.2 := by
  cases h with
  | fine hfirst hsource => exact checkImportSource_eq_nil_iff.mpr ⟨_, hfirst, hsource⟩
  | missing hmissing =>
      rw [Argument.find?_eq_none_iff.mpr hmissing]
      rfl
  | value hfirst hvalue =>
      rw [Argument.find?_eq_some_iff.mpr hfirst, checkImportSource]
      split
      next span field hobject => exact absurd hobject (hvalue span [field])
      next span fields _ hobject => exact absurd hobject (hvalue span fields)
      next => rfl
  | size hfirst hobject hlength =>
      rw [Argument.find?_eq_some_iff.mpr hfirst, checkImportSource, hobject]
      split
      next field hfield =>
        cases hfield
        exact absurd rfl hlength
      next => rfl
      next hother => exact absurd rfl (hother _ _)
  | @fieldName argument span field hfirst hobject hname hid =>
      have hissue : sourceFieldIssue? field = some .importSourceField :=
        if_neg (not_or.mpr ⟨hname, hid⟩)
      rw [Argument.find?_eq_some_iff.mpr hfirst, checkImportSource, hobject]
      simp only [hissue]
      rfl
  | @fieldValue argument span field hfirst hobject hname hvalue =>
      have hstring : ¬ field.value.isString = true := fun hstring => by
        obtain ⟨literal, hliteral⟩ := isString_iff.mp hstring
        exact hvalue literal hliteral
      have hissue : sourceFieldIssue? field = some .importSourceFieldValue := by
        rw [sourceFieldIssue?, if_pos hname, if_neg hstring]
      rw [Argument.find?_eq_some_iff.mpr hfirst, checkImportSource, hobject]
      simp only [hissue]
      rfl

theorem exists_sourceReport_of_first {argument : Argument}
    (hfirst : First (·.name.text = "from") directive.arguments argument) :
    ∃ source?, SourceReport directive source? := by
  by_cases hobject : ∃ span fields, argument.value = .object span fields
  · obtain ⟨span, fields, hobject⟩ := hobject
    by_cases hlength : fields.length = 1
    · obtain ⟨field, rfl⟩ := List.length_eq_one_iff.mp hlength
      by_cases hname : field.name.text = "name" ∨ field.name.text = "id"
      · by_cases hstring : ∃ literal, field.value = .string literal
        · exact ⟨_, .fine hfirst (hobject ▸ .object ⟨hname, hstring⟩)⟩
        · exact ⟨_, .fieldValue hfirst hobject hname (not_exists.mp hstring)⟩
      · exact ⟨_, .fieldName hfirst hobject (not_or.mp hname).1 (not_or.mp hname).2⟩
    · exact ⟨_, .size hfirst hobject hlength⟩
  · simp only [not_exists] at hobject
    exact ⟨_, .value hfirst hobject⟩

theorem exists_sourceReport (directive : Directive) :
    ∃ source?, SourceReport directive source? := by
  cases hfind : Argument.find? directive.arguments "from" with
  | none => exact ⟨_, .missing (Argument.find?_eq_none_iff.mp hfind)⟩
  | some argument => exact exists_sourceReport_of_first (Argument.find?_eq_some_iff.mp hfind)

/-! ## The whole import -/

/-- **What is reported of an import.**  First what there is to say of the things that it imports, at
the name of the directive, and then of its source: one thing at most, and nothing exactly if the
source is an object with one string, under `name` or `id`. -/
theorem checkImport_eq_iff_reports (owner : Declaration) (directive : Directive) :
    (∀ findings, checkImport owner directive = findings
        ↔ ∃ issues source?, TypesReport directive issues ∧ SourceReport directive source?
          ∧ findings
            = issues.map
                (fun issue => ⟨Span.orPlaceholder directive.name.span, owner.name.text, issue⟩)
              ++ source?.toList.map
                fun source => ⟨Span.orPlaceholder source.1, owner.name.text, source.2⟩)
      ∧ (checkImportSource owner directive (Argument.find? directive.arguments "from") = []
        ↔ ∃ argument, First (·.name.text = "from") directive.arguments argument
          ∧ argument.value.IsImportSource) := by
  have hcheck {issues : List Issue} {source? : Option (Option Span × Issue)}
      (htypes : TypesReport directive issues) (hsource : SourceReport directive source?) :
      checkImport owner directive
        = issues.map
            (fun issue => ⟨Span.orPlaceholder directive.name.span, owner.name.text, issue⟩)
          ++ source?.toList.map
            fun source => ⟨Span.orPlaceholder source.1, owner.name.text, source.2⟩ := by
    rw [checkImport, htypes.eq, hsource.eq]
    rfl
  refine ⟨fun findings => ⟨?_, ?_⟩, checkImportSource_eq_nil_iff⟩
  · rintro rfl
    obtain ⟨issues, htypes⟩ := exists_typesReport directive
    obtain ⟨source?, hsource⟩ := exists_sourceReport directive
    exact ⟨issues, source?, htypes, hsource, hcheck htypes hsource⟩
  · rintro ⟨issues, source?, htypes, hsource, rfl⟩
    exact hcheck htypes hsource

end EntitySchema
