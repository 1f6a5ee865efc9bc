/-
# `EntitySchema.Proofs.FirstFault` — which fault of a back-reference is reported

A back-reference is asked five things one after the other, and each makes sense only if the ones
before it hold: that its directive has the one argument `field`; that this is a string; that the
field leads to an entity of the schema, without which nothing more is asked; that the entity has a
field of the name given; and that this field leads back.  `FirstFault` has one constructor for each
question at which the check can end, with the answers to all questions up to it.  So at most one
thing is reported, and which it is says how far the check has come
(`checkBackReference_eq_iff_firstFault`).
-/
import EntitySchema.Proofs.BackReference

namespace EntitySchema

/-- `directive.Gives value`: the only argument of the directive is `field`, with this value. -/
def Directive.Gives (directive : Directive) (value : Value) : Prop :=
  ∃ argument, directive.arguments = [argument] ∧ argument.name.text = "field"
    ∧ argument.value = value

/-- `FirstFault definitions origin field directive issue?`: the check of a back-reference of the
entity `origin` ends with this issue, or with none. -/
inductive FirstFault (definitions : List Definition) (origin : String) (field : Field)
    (directive : Directive) : Option Issue → Prop
  | arguments :
      (∀ value, ¬ directive.Gives value) →
      FirstFault definitions origin field directive
        (some (.derivedFromArguments field.name.text))
  | value {value : Value} :
      directive.Gives value → (∀ literal, value ≠ .string literal) →
      FirstFault definitions origin field directive (some (.derivedFromValue field.name.text))
  | noEntity {literal : StringLiteral} {base : String} :
      directive.Gives (.string literal) → field.type.HasBase base →
      ¬ HasEntity definitions base →
      FirstFault definitions origin field directive none
  | missing {literal : StringLiteral} {base : String} {target : TypeDefinition} :
      directive.Gives (.string literal) → field.type.HasBase base →
      FirstEntity definitions base target →
      (∀ back ∈ target.fields, back.name.text ≠ literal.text) →
      FirstFault definitions origin field directive
        (some (.derivedFromMissing field.name.text literal.text target.name.text))
  | elsewhere {literal : StringLiteral} {base : String} {target : TypeDefinition} {back : Field} :
      directive.Gives (.string literal) → field.type.HasBase base →
      FirstEntity definitions base target →
      First (·.name.text = literal.text) target.fields back →
      ¬ (back.type.HasBase origin ∧ HasEntity definitions origin) →
      FirstFault definitions origin field directive
        (some (.derivedFromType field.name.text literal.text target.name.text origin))
  | leadsBack {literal : StringLiteral} {base : String} {target : TypeDefinition} {back : Field} :
      directive.Gives (.string literal) → field.type.HasBase base →
      FirstEntity definitions base target →
      First (·.name.text = literal.text) target.fields back →
      back.type.HasBase origin → HasEntity definitions origin →
      FirstFault definitions origin field directive none

/-- What an issue of a field is about. -/
inductive Topic where
  /-- The elements of its lists. -/
  | elements
  /-- Its type. -/
  | type
  /-- What a directive says of a back-reference. -/
  | form
  /-- The entity that a back-reference leads to. -/
  | target
  | other
  deriving DecidableEq

/-- The topic of an issue. -/
def Issue.topic : Issue → Topic
  | .nullableElements _ _ _ => .elements
  | .unknownType _ _ => .type
  | .derivedFromArguments _ | .derivedFromValue _ => .form
  | .derivedFromMissing _ _ _ | .derivedFromType _ _ _ _ => .target
  | _ => .other

variable {definitions : List Definition} {origin source base : String} {field : Field}
  {directive : Directive} {target : TypeDefinition} {back : Field} {issue : Issue}

/-! ## The form of the directive -/

theorem Directive.names_iff_gives :
    directive.Names source
      ↔ ∃ literal, directive.Gives (.string literal) ∧ literal.text = source := by
  constructor
  · rintro ⟨argument, literal, hargs, hname, hvalue, htext⟩
    exact ⟨literal, ⟨argument, hargs, hname, hvalue⟩, htext⟩
  · rintro ⟨literal, ⟨argument, hargs, hname, hvalue⟩, htext⟩
    exact ⟨argument, literal, hargs, hname, hvalue, htext⟩

theorem Directive.Gives.unique {value value' : Value} (h : directive.Gives value)
    (h' : directive.Gives value') : value = value' := by
  obtain ⟨argument, hargs, _, rfl⟩ := h
  obtain ⟨argument', hargs', _, rfl⟩ := h'
  cases hargs.symm.trans hargs'
  rfl

theorem backReferenceIssue?_of_not_gives (h : ∀ value, ¬ directive.Gives value) :
    backReferenceIssue? definitions origin field directive
      = some (.derivedFromArguments field.name.text) := by
  rw [backReferenceIssue?]
  split
  next argument hargs =>
    exact if_neg fun hname => h _ ⟨argument, hargs, hname, rfl⟩
  next => rfl

theorem backReferenceIssue?_of_gives_value {value : Value} (hgives : directive.Gives value)
    (hvalue : ∀ literal, value ≠ .string literal) :
    backReferenceIssue? definitions origin field directive
      = some (.derivedFromValue field.name.text) := by
  obtain ⟨argument, hargs, hname, rfl⟩ := hgives
  -- `hvalue` rules out the first branch on the value.
  rw [backReferenceIssue?, hargs]
  simp only [if_pos hname]

/-! ## The way back -/

theorem sourceIssue?_of_missing {label : String}
    (h : ∀ back ∈ target.fields, back.name.text ≠ source) :
    sourceIssue? definitions origin label source target
      = some (.derivedFromMissing label source target.name.text) := by
  rw [sourceIssue?, Field.find?_eq_none_iff.mpr h]

theorem sourceIssue?_of_elsewhere {label : String}
    (hback : First (·.name.text = source) target.fields back)
    (helsewhere : ¬ (back.type.HasBase origin ∧ HasEntity definitions origin)) :
    sourceIssue? definitions origin label source target
      = some (.derivedFromType label source target.name.text origin) := by
  have hsome : sourceIssue? definitions origin label source target ≠ none := by
    intro hnone
    obtain ⟨back', hback', hleads⟩ := sourceIssue?_eq_none_iff.mp hnone
    cases First.unique hback hback'
    exact helsewhere hleads
  -- Once the field is there, only one issue is left.
  rw [sourceIssue?, Field.find?_eq_some_iff.mpr hback] at hsome ⊢
  simp only at hsome ⊢
  split at hsome
  next => rfl
  next =>
    split at hsome
    next => exact absurd rfl hsome
    next horigin => exact if_neg horigin

/-! ## The whole check -/

/-- With a directive of the right form and an entity to lead to, the check is that of the way
back. -/
theorem backReferenceIssue?_of_firstEntity {literal : StringLiteral}
    (hgives : directive.Gives (.string literal)) (hbase : field.type.HasBase base)
    (htarget : FirstEntity definitions base target) :
    backReferenceIssue? definitions origin field directive
      = sourceIssue? definitions origin field.name.text literal.text target := by
  have hnames : directive.Names literal.text := Directive.names_iff_gives.mpr ⟨literal, hgives, rfl⟩
  rw [backReferenceIssue?_of_names hnames, TypeExpr.hasBase_iff.mp hbase,
    entityNamed?_eq_some_iff.mpr htarget, Option.bind_some]

/-- The check ends as the first fault says. -/
theorem FirstFault.eq {issue? : Option Issue}
    (h : FirstFault definitions origin field directive issue?) :
    backReferenceIssue? definitions origin field directive = issue? := by
  cases h with
  | arguments hargs => exact backReferenceIssue?_of_not_gives hargs
  | value hgives hvalue => exact backReferenceIssue?_of_gives_value hgives hvalue
  | noEntity hgives hbase hnone =>
      have hrule : BackReferenceRule definitions origin field directive :=
        ⟨_, _, Directive.names_iff_gives.mpr ⟨_, hgives, rfl⟩, hbase, .inl hnone⟩
      exact backReferenceIssue?_eq_none_iff.mpr hrule
  | missing hgives hbase htarget hmissing =>
      rw [backReferenceIssue?_of_firstEntity hgives hbase htarget]
      exact sourceIssue?_of_missing hmissing
  | elsewhere hgives hbase htarget hback helsewhere =>
      rw [backReferenceIssue?_of_firstEntity hgives hbase htarget]
      exact sourceIssue?_of_elsewhere hback helsewhere
  | leadsBack hgives hbase htarget hback horigin hentity =>
      rw [backReferenceIssue?_of_firstEntity hgives hbase htarget]
      exact sourceIssue?_eq_none_iff.mpr ⟨_, hback, horigin, hentity⟩

/-- Some constructor always applies. -/
theorem exists_firstFault (definitions : List Definition) (origin : String) (field : Field)
    (directive : Directive) : ∃ issue?, FirstFault definitions origin field directive issue? := by
  by_cases hargs : ∃ value, directive.Gives value
  · obtain ⟨value, hgives⟩ := hargs
    by_cases hvalue : ∃ literal, value = .string literal
    · obtain ⟨literal, rfl⟩ := hvalue
      have hbase : field.type.HasBase field.type.baseName := field.type.hasBase_baseName
      cases htarget : entityNamed? definitions field.type.baseName with
      | none => exact ⟨_, .noEntity hgives hbase (entityNamed?_eq_none_iff.mp htarget)⟩
      | some target =>
          have hfirst := entityNamed?_eq_some_iff.mp htarget
          cases hback : Field.find? target.fields literal.text with
          | none =>
              exact ⟨_, .missing hgives hbase hfirst (Field.find?_eq_none_iff.mp hback)⟩
          | some back =>
              have hfield := Field.find?_eq_some_iff.mp hback
              by_cases hleads : back.type.HasBase origin ∧ HasEntity definitions origin
              · exact ⟨_, .leadsBack hgives hbase hfirst hfield hleads.1 hleads.2⟩
              · exact ⟨_, .elsewhere hgives hbase hfirst hfield hleads⟩
    · exact ⟨_, .value hgives fun literal h => hvalue ⟨literal, h⟩⟩
  · exact ⟨_, .arguments fun value h => hargs ⟨value, h⟩⟩

theorem backReferenceIssue?_eq_iff {issue? : Option Issue} :
    backReferenceIssue? definitions origin field directive = issue?
      ↔ FirstFault definitions origin field directive issue? := by
  constructor
  · rintro rfl
    obtain ⟨issue?, hfault⟩ := exists_firstFault definitions origin field directive
    rw [hfault.eq]
    exact hfault
  · exact FirstFault.eq

/-! ## Topics -/

theorem FirstFault.topic_eq (h : FirstFault definitions origin field directive (some issue)) :
    issue.topic = .form ∨ issue.topic = .target := by
  cases h with
  | arguments _ => exact .inl rfl
  | value _ _ => exact .inl rfl
  | missing _ _ _ _ => exact .inr rfl
  | elsewhere _ _ _ _ _ => exact .inr rfl

/-- Issues of other topics come from other checks. -/
theorem FirstFault.topic_ne {topic : Topic}
    (h : FirstFault definitions origin field directive (some issue)) (hform : topic ≠ .form)
    (htarget : topic ≠ .target) : issue.topic ≠ topic := by
  rintro rfl
  exact h.topic_eq.elim hform htarget

/-- A back-reference that leads to no entity can only be at fault in its form. -/
theorem FirstFault.not_names (h : FirstFault definitions origin field directive (some issue))
    (hbase : field.type.HasBase base) (hnone : ¬ HasEntity definitions base) :
    issue.topic = .form ∧ ∀ source, ¬ directive.Names source := by
  have hentity {base' : String} (hbase' : field.type.HasBase base') :
      ¬ HasEntity definitions base' := by
    cases hbase.unique hbase'
    exact hnone
  cases h with
  | arguments hargs =>
      refine ⟨rfl, fun source hnames => ?_⟩
      obtain ⟨literal, hgives, _⟩ := Directive.names_iff_gives.mp hnames
      exact hargs _ hgives
  | value hgives hvalue =>
      refine ⟨rfl, fun source hnames => ?_⟩
      obtain ⟨literal, hgives', _⟩ := Directive.names_iff_gives.mp hnames
      exact hvalue literal (hgives.unique hgives')
  | missing _ hbase' htarget _ => exact absurd htarget.hasEntity (hentity hbase')
  | elsewhere _ hbase' htarget _ _ => exact absurd htarget.hasEntity (hentity hbase')

/-- **What is reported of a back-reference.**  At most one finding, at the directive and about the
type it stands on: that of the first fault. -/
theorem checkBackReference_eq_iff_firstFault (definitions : List Definition) (owner : Declaration)
    (field : Field) (directive : Directive) :
    (checkBackReference definitions owner field directive).length ≤ 1
      ∧ ∀ findings, checkBackReference definitions owner field directive = findings
        ↔ ∃ issue?, FirstFault definitions owner.name.text field directive issue?
          ∧ findings = issue?.toList.map fun issue =>
            ⟨Span.orPlaceholder directive.span, owner.name.text, issue⟩ := by
  have hcheck : checkBackReference definitions owner field directive
      = (backReferenceIssue? definitions owner.name.text field directive).toList.map fun issue =>
          ⟨Span.orPlaceholder directive.span, owner.name.text, issue⟩ := rfl
  refine ⟨?_, fun findings => ⟨?_, ?_⟩⟩
  · rw [hcheck, List.length_map]
    exact Option.length_toList_le
  · rintro rfl
    exact ⟨_, backReferenceIssue?_eq_iff.mp rfl, hcheck⟩
  · rintro ⟨issue?, hfault, rfl⟩
    rw [hcheck, hfault.eq]

end EntitySchema
