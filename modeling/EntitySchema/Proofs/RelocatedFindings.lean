/-
# `EntitySchema.Proofs.RelocatedFindings` — where findings are, and what they do not depend on

Every finding about a definition is put at one of its nodes.  A `Report` is a finding before that: it
keeps the span of the node itself, which may be missing.  For each definition there is one list of
reports, fixed before anything is said about places, and from it come both what is found in the
schema as it stands and what is found in the schema at any other places (`validate_mapSpans`).  So a
span has no influence but on the location of the findings at its node, and the names that collide
are found at the placeholder whatever the places.

`Sited` says this of a single check, and the lemmas follow the way in which the checks are put
together.  The siblings of a definition need no lemma of their own, as a schema at other places has
the same summary.
-/
import EntitySchema.Proofs.Bare
import EntitySchema.Proofs.Relocation

namespace EntitySchema

/-- A finding that is not put at a place yet: the span of the node that it is about, the type that
it belongs to, and what is wrong. -/
structure Report where
  site : Option Span
  entity : String
  issue : Issue

/-- The finding of a report, in the schema at the places that `g` gives. -/
def Report.placed (g : SpanMap) (report : Report) : Finding :=
  ⟨Span.orPlaceholder (g report.site), report.entity, report.issue⟩

/-- A finding without its place. -/
def Finding.content (finding : Finding) : String × Issue := (finding.entity, finding.issue)

/-- The spans of the nodes that findings about a declaration are put at. -/
inductive Declaration.HasSite (owner : Declaration) : Option Span → Prop
  | whole : HasSite owner owner.span
  | name : HasSite owner owner.name.span
  | field {field : Field} : field ∈ owner.fields → HasSite owner field.span
  | backReference {field : Field} {directive : Directive} :
      field ∈ owner.fields → directive ∈ field.directives → HasSite owner directive.span
  | directiveName {directive : Directive} :
      directive ∈ owner.directives → HasSite owner directive.name.span
  | sourceField {directive : Directive} {argument : Argument} {span : Option Span}
      {fields : List ObjectField} {field : ObjectField} :
      directive ∈ owner.directives → argument ∈ directive.arguments →
      argument.value = .object span fields → field ∈ fields → HasSite owner field.name.span

/-- The same for a definition; nothing is found about one that defines no type. -/
def Definition.HasSite (definition : Definition) (span : Option Span) : Prop :=
  ∃ type, definition = .type type ∧ type.declaration.HasSite span

/-- `Sited IsSite original moved`: what is found in a tree and what is found in the tree at the places
of any `g` are the findings of the same reports, at spans with the property `IsSite`. -/
def Sited (IsSite : Option Span → Prop) (original : List Finding)
    (moved : SpanMap → List Finding) : Prop :=
  ∃ reports : List Report, (∀ report ∈ reports, IsSite report.site)
    ∧ original = reports.map (Report.placed id) ∧ ∀ g, moved g = reports.map (Report.placed g)

variable {definitions : List Definition} {owner : Declaration} {field : Field}

/-! ## How findings are put together -/

namespace Sited

variable {IsSite : Option Span → Prop} {span : Option Span}

theorem nil : Sited IsSite [] fun _ => [] :=
  ⟨[], fun _ h => absurd h List.not_mem_nil, rfl, fun _ => rfl⟩

theorem issues {issues : List Issue} (hsite : IsSite span) :
    Sited IsSite (issues.map (owner.finding span))
      fun g => issues.map ((owner.mapSpans g).finding (g span)) := by
  refine ⟨issues.map (⟨span, owner.name.text, ·⟩), ?_, ?_, ?_⟩
  · intro report hmem
    obtain ⟨issue, _, rfl⟩ := List.mem_map.mp hmem
    exact hsite
  · rw [List.map_map]
    rfl
  · intro g
    rw [List.map_map]
    rfl

theorem finding {issue : Issue} (hsite : IsSite span) :
    Sited IsSite [owner.finding span issue]
      fun g => [(owner.mapSpans g).finding (g span) issue] := by
  have h := @issues owner IsSite span [issue] hsite
  exact h

theorem append {original original' : List Finding} {moved moved' : SpanMap → List Finding}
    (h : Sited IsSite original moved) (h' : Sited IsSite original' moved') :
    Sited IsSite (original ++ original') fun g => moved g ++ moved' g := by
  obtain ⟨reports, hsites, horiginal, hmoved⟩ := h
  obtain ⟨reports', hsites', horiginal', hmoved'⟩ := h'
  refine ⟨reports ++ reports', ?_, ?_, ?_⟩
  · intro report hmem
    rcases List.mem_append.mp hmem with hmem | hmem
    · exact hsites report hmem
    · exact hsites' report hmem
  · rw [List.map_append, horiginal, horiginal']
  · intro g
    show moved g ++ moved' g = _
    rw [List.map_append, hmoved, hmoved']

theorem flatMap {α : Type} {l : List α} {original : α → List Finding}
    {moved : α → SpanMap → List Finding} (h : ∀ a ∈ l, Sited IsSite (original a) (moved a)) :
    Sited IsSite (l.flatMap original) fun g => l.flatMap (moved · g) := by
  induction l with
  | nil => exact nil
  | cons a rest ih =>
      simp only [List.flatMap_cons]
      exact (h a List.mem_cons_self).append
        (ih fun b hmem => h b (List.mem_cons_of_mem _ hmem))

/-- A check that reports unless its rule is kept, where the rule does not depend on places. -/
theorem rule {rule : Prop} [Decidable rule] {rule' : SpanMap → Prop} [∀ g, Decidable (rule' g)]
    {issue : Issue} (h : ∀ g, rule' g ↔ rule) (hsite : IsSite span) :
    Sited IsSite (if rule then [] else [owner.finding span issue])
      fun g => if rule' g then [] else [(owner.mapSpans g).finding (g span) issue] := by
  simp only [h]
  by_cases hrule : rule
  · simp only [if_pos hrule]
    exact nil
  · simp only [if_neg hrule]
    exact finding hsite

theorem mono {IsSite' : Option Span → Prop} {original : List Finding}
    {moved : SpanMap → List Finding} (h : Sited IsSite original moved)
    (hmono : ∀ span, IsSite span → IsSite' span) : Sited IsSite' original moved := by
  obtain ⟨reports, hsites, hreports⟩ := h
  exact ⟨reports, fun report hmem => hmono _ (hsites report hmem), hreports⟩

end Sited

/-! ## Back-references -/

theorem backReferenceIssue?_mapSpans {g : SpanMap} {origin : String} {directive : Directive} :
    backReferenceIssue? definitions origin (field.mapSpans g) (directive.mapSpans g)
      = backReferenceIssue? definitions origin field directive := by
  have hbase : (field.mapSpans g).type.baseName = field.type.baseName :=
    TypeExpr.baseName_mapSpans
  have hfield : (field.mapSpans g).name.text = field.name.text := rfl
  simp only [backReferenceIssue?, hbase, hfield, Directive.mapSpans]
  -- Only a directive with a single argument is looked into.
  rcases directive.arguments with _ | ⟨argument, _ | ⟨other, rest⟩⟩
  · rfl
  · simp only [List.map_cons, List.map_nil, Argument.mapSpans, Name.text_mapSpans]
    cases argument.value <;> rfl
  · rfl

theorem checkBackReferences_sited (hfield : field ∈ owner.fields) :
    Sited owner.HasSite (checkBackReferences definitions owner field)
      fun g => checkBackReferences definitions (owner.mapSpans g) (field.mapSpans g) := by
  have hfilter (g : SpanMap) : (field.mapSpans g).directives.filter (·.name.text == "derivedFrom")
      = (field.directives.filter (·.name.text == "derivedFrom")).map (Directive.mapSpans g) :=
    filter_map_of_forall fun _ => rfl
  simp only [checkBackReferences, hfilter, List.flatMap_map]
  refine Sited.flatMap fun directive hmem => ?_
  have hdirective : directive ∈ field.directives := List.mem_of_mem_filter hmem
  simp only [checkBackReference, backReferenceIssue?_mapSpans]
  exact Sited.issues (.backReference hfield hdirective)

/-! ## Fields -/

theorem checkElements_sited (hfield : field ∈ owner.fields) :
    Sited owner.HasSite (checkElements owner field)
      fun g => checkElements (owner.mapSpans g) (field.mapSpans g) := by
  have hnullable (g : SpanMap) : (field.mapSpans g).type.nullableElement?
      = field.type.nullableElement?.map (TypeExpr.mapSpans g) := TypeExpr.nullableElement?_mapSpans
  have hnonNull (g : SpanMap) : (field.mapSpans g).type.isNonNull = field.type.isNonNull :=
    TypeExpr.isNonNull_mapSpans
  simp only [checkElements, hnullable, hnonNull]
  cases field.type.nullableElement? with
  | none => exact Sited.nil
  | some element =>
      simp only [Option.map_some, TypeExpr.render_mapSpans]
      exact Sited.finding (.field hfield)

theorem checkKnown_sited {known : List String} (hfield : field ∈ owner.fields) :
    Sited owner.HasSite (checkKnown known owner field)
      fun g => checkKnown known (owner.mapSpans g) (field.mapSpans g) := by
  have hbase (g : SpanMap) : (field.mapSpans g).type.baseName = field.type.baseName :=
    TypeExpr.baseName_mapSpans
  simp only [checkKnown, hbase]
  exact Sited.rule (fun _ => Iff.rfl) (.field hfield)

theorem checkNoArguments_sited (hfield : field ∈ owner.fields) :
    Sited owner.HasSite (checkNoArguments owner field)
      fun g => checkNoArguments (owner.mapSpans g) (field.mapSpans g) := by
  refine Sited.rule (fun g => ?_) (.field hfield)
  rw [Field.mapSpans, List.isEmpty_map]

theorem checkField_sited {known : List String} (hfield : field ∈ owner.fields) :
    Sited owner.HasSite (checkField definitions known owner field)
      fun g => checkField definitions known (owner.mapSpans g) (field.mapSpans g) :=
  (((checkElements_sited hfield).append (checkKnown_sited hfield)).append
    (checkNoArguments_sited hfield)).append (checkBackReferences_sited hfield)

/-! ## Entities -/

theorem checkEntityDirective_sited :
    Sited owner.HasSite (checkEntityDirective owner)
      fun g => checkEntityDirective (owner.mapSpans g) := by
  refine Sited.rule (fun g => ?_) .whole
  rw [Declaration.mapSpans, has_mapSpans]

theorem checkId_sited :
    Sited owner.HasSite (checkId owner) fun g => checkId (owner.mapSpans g) := by
  have hfind (g : SpanMap) : Field.find? (owner.mapSpans g).fields "id"
      = (Field.find? owner.fields "id").map (Field.mapSpans g) := field_find?_mapSpans
  simp only [checkId, hfind]
  cases hid : Field.find? owner.fields "id" with
  | none => exact Sited.finding .whole
  | some field =>
      have hfield : field ∈ owner.fields := (Field.find?_eq_some_iff.mp hid).mem
      refine Sited.rule (fun g => ?_) (.field hfield)
      rw [Field.mapSpans, TypeExpr.isIdentifier_mapSpans]

theorem checkNoImport_sited :
    Sited owner.HasSite (checkNoImport owner) fun g => checkNoImport (owner.mapSpans g) := by
  simp only [checkNoImport, Declaration.mapSpans, has_mapSpans]
  by_cases himport : Directive.has owner.directives "import" = true
  · simp only [if_pos himport]
    exact Sited.finding .name
  · simp only [if_neg himport]
    exact Sited.nil

theorem checkEntity_sited :
    Sited owner.HasSite (checkEntity definitions owner)
      fun g => checkEntity definitions (owner.mapSpans g) := by
  refine ((checkEntityDirective_sited.append checkId_sited).append ?_).append checkNoImport_sited
  simp only [Declaration.mapSpans, List.flatMap_map]
  exact Sited.flatMap fun field hfield => checkField_sited hfield

/-! ## The import type -/

theorem checkNoFields_sited :
    Sited owner.HasSite (checkNoFields owner) fun g => checkNoFields (owner.mapSpans g) := by
  refine Sited.rule (fun g => ?_) .name
  rw [Declaration.mapSpans, List.isEmpty_map]

theorem checkImportSource_sited {directive : Directive} {argument : Option Argument}
    (hdirective : directive ∈ owner.directives)
    (hargument : ∀ a, argument = some a → a ∈ directive.arguments) :
    Sited owner.HasSite (checkImportSource owner directive argument)
      fun g => checkImportSource (owner.mapSpans g) (directive.mapSpans g)
        (argument.map (Argument.mapSpans g)) := by
  cases argument with
  | none => exact Sited.finding (.directiveName hdirective)
  | some argument =>
      simp only [Option.map_some, checkImportSource, Argument.mapSpans]
      cases hvalue : argument.value with
      | object span fields =>
          simp only [Value.mapSpans, ObjectField.mapSpansList_eq]
          rcases fields with _ | ⟨field, _ | ⟨other, rest⟩⟩
          · exact Sited.finding (.directiveName hdirective)
          · simp only [List.map_cons, List.map_nil, sourceFieldIssue?_mapSpans, name_mapSpans]
            exact Sited.issues
              (.sourceField hdirective (hargument argument rfl) hvalue List.mem_cons_self)
          · exact Sited.finding (.directiveName hdirective)
      | _ => exact Sited.finding (.directiveName hdirective)

theorem checkImport_sited {directive : Directive} (hdirective : directive ∈ owner.directives) :
    Sited owner.HasSite (checkImport owner directive)
      fun g => checkImport (owner.mapSpans g) (directive.mapSpans g) := by
  have hfind (g : SpanMap) (name : String) :
      Argument.find? (directive.mapSpans g).arguments name
        = (Argument.find? directive.arguments name).map (Argument.mapSpans g) :=
    argument_find?_mapSpans
  simp only [checkImport, hfind, importTypesIssues_mapSpans]
  refine Sited.append (Sited.issues (.directiveName hdirective))
    (checkImportSource_sited hdirective ?_)
  intro argument hfound
  exact (Argument.find?_eq_some_iff.mp hfound).mem

theorem checkImportType_sited :
    Sited owner.HasSite (checkImportType owner) fun g => checkImportType (owner.mapSpans g) := by
  refine checkNoFields_sited.append ?_
  simp only [Declaration.mapSpans, List.flatMap_map]
  refine Sited.flatMap fun directive hdirective => ?_
  simp only [checkImportTypeDirective]
  by_cases himport : directive.name.text = "import"
  · have himport' (g : SpanMap) : (directive.mapSpans g).name.text = "import" := himport
    simp only [if_pos himport, if_pos (himport' _)]
    exact checkImport_sited hdirective
  · have himport' (g : SpanMap) : ¬ (directive.mapSpans g).name.text = "import" := himport
    simp only [if_neg himport, if_neg (himport' _)]
    exact Sited.finding (.directiveName hdirective)

/-! ## Schemas -/

theorem checkDefinition_sited (definitions : List Definition) (definition : Definition) :
    Sited definition.HasSite (checkDefinition definitions definition)
      fun g => checkDefinition (definitions.map (Definition.mapSpans g))
        (definition.mapSpans g) := by
  simp only [checkDefinition_congr summary_mapSpans]
  cases definition with
  | type type =>
      simp only [Definition.mapSpans, checkDefinition, TypeDefinition.isImportType_mapSpans,
        TypeDefinition.isObject_mapSpans, TypeDefinition.declaration_mapSpans]
      have hsite (span : Option Span) (h : type.declaration.HasSite span) :
          (Definition.type type).HasSite span := ⟨type, rfl, h⟩
      by_cases himport : type.isImportType = true
      · simp only [if_pos himport]
        exact checkImportType_sited.mono hsite
      · simp only [if_neg himport]
        by_cases hobject : type.isObject = true
        · simp only [if_pos hobject]
          exact checkEntity_sited.mono hsite
        · simp only [if_neg hobject]
          exact Sited.nil
  | typeExtension _ => exact Sited.nil
  | schema _ => exact Sited.nil
  | schemaExtension _ => exact Sited.nil
  | directive _ => exact Sited.nil

theorem checkNames_mapSpans {g : SpanMap} :
    checkNames (definitions.map (Definition.mapSpans g)) = checkNames definitions := by
  rw [checkNames_eq_map, checkNames_eq_map, gatheredNames_mapSpans]

theorem exists_reports (definitions : List Definition) :
    ∃ reports : Definition → List Report,
      (∀ definition, ∀ report ∈ reports definition, definition.HasSite report.site)
        ∧ validate definitions
            = definitions.flatMap (fun definition => (reports definition).map (Report.placed id))
              ++ checkNames definitions
        ∧ ∀ g, validate (definitions.map (Definition.mapSpans g))
            = definitions.flatMap (fun definition => (reports definition).map (Report.placed g))
              ++ checkNames definitions := by
  choose reports hsites horiginal hmoved using checkDefinition_sited definitions
  refine ⟨reports, hsites, ?_, fun g => ?_⟩
  · rw [validate, funext horiginal]
  · rw [validate, checkNames_mapSpans, List.flatMap_map]
    simp only [hmoved]

theorem content_validate_mapSpans (g : SpanMap) :
    (validate (definitions.map (Definition.mapSpans g))).map Finding.content
      = (validate definitions).map Finding.content := by
  obtain ⟨reports, _, horiginal, hmoved⟩ := exists_reports definitions
  have hcontent (g : SpanMap) :
      Finding.content ∘ Report.placed g = fun report => (report.entity, report.issue) := rfl
  rw [horiginal, hmoved]
  simp only [List.map_append, List.map_flatMap, List.map_map, hcontent]

theorem Document.definitions_mapSpans (document : Document) (g : SpanMap) :
    (document.mapSpans g).definitions = document.definitions.map (Definition.mapSpans g) := by
  have hitem (item : Item) :
      (item.mapSpans g).definition? = item.definition?.map (Definition.mapSpans g) := by
    cases item <;> rfl
  rw [Document.definitions, Document.definitions, Document.mapSpans, List.filterMap_map,
    List.map_filterMap]
  exact congrArg (List.filterMap · document.items) (funext hitem)

/-- **Places only flow into places.**  Each definition of a schema has its reports, each at a node of
that definition; at the places of any `g`, each of them is found at what `g` makes of the span of its
node, and besides only the names that collide are found, as before and always at the placeholder.
Documents that are the same up to places have findings of the same content in the same order. -/
theorem validate_mapSpans :
    (∀ definitions : List Definition, ∃ reports : Definition → List Report,
        (∀ definition, ∀ report ∈ reports definition, definition.HasSite report.site)
          ∧ validate definitions
              = definitions.flatMap (fun definition => (reports definition).map (Report.placed id))
                ++ checkNames definitions
          ∧ (∀ g, validate (definitions.map (Definition.mapSpans g))
              = definitions.flatMap (fun definition => (reports definition).map (Report.placed g))
                ++ checkNames definitions)
          ∧ ∀ finding ∈ checkNames definitions, finding.location = Span.placeholder)
      ∧ ∀ left right : Document, left.withoutSpans = right.withoutSpans →
          (validate left.definitions).map Finding.content
            = (validate right.definitions).map Finding.content := by
  refine ⟨fun definitions => ?_, fun left right hsame => ?_⟩
  · obtain ⟨reports, hsites, horiginal, hmoved⟩ := exists_reports definitions
    refine ⟨reports, hsites, horiginal, hmoved, fun finding hmem => ?_⟩
    rw [checkNames_eq_map] at hmem
    obtain ⟨name, _, rfl⟩ := List.mem_map.mp hmem
    rfl
  · have hdefinitions := congrArg Document.definitions hsame
    rw [Document.withoutSpans, Document.withoutSpans, Document.definitions_mapSpans,
      Document.definitions_mapSpans] at hdefinitions
    rw [← content_validate_mapSpans fun _ => none, hdefinitions, content_validate_mapSpans]

/-! ## A small document -/

section Documents

open Bare

/-- A document with a field of an unknown type and two types of one name, all of it at one place. -/
def poolsAt (span : Option Span) : Document :=
  Document.mapSpans (fun _ => span)
    ⟨[.definition (.type (entity "Pool" [Bare.field "owner" (named "Owner") []])),
      .definition (.type (entity "Pool" []))]⟩

end Documents

theorem content_poolsAt :
    (poolsAt none).withoutSpans = (poolsAt (some ⟨20, 32⟩)).withoutSpans
      ∧ (validate (poolsAt (some ⟨20, 32⟩)).definitions).map (·.location)
          = [⟨20, 32⟩, Span.placeholder]
      ∧ (validate (poolsAt none).definitions).map Finding.content
          = (validate (poolsAt (some ⟨20, 32⟩)).definitions).map Finding.content :=
  ⟨rfl, rfl, validate_mapSpans.2 _ _ rfl⟩

end EntitySchema
