/-
# `EntitySchema.Proofs.BackReference` — what the rules ask of a back-reference

A back-reference names a field, by a string and by nothing else.  If the annotated field leads to an
entity of the schema, that entity has a field of this name, and the type inside all wrappers of that
field is the entity the back-reference stands on.  `backReferenceIssue?_eq_none_iff` says that the
check finds no fault exactly then.  A field that leads to no entity of the schema is not asked for
more than the form of its directive.
-/
import EntitySchema.Proofs.Names
import EntitySchema.Proofs.TypeExpr

namespace EntitySchema

/-- `directive.Names source`: the only argument of the directive is `field`, the string `source`. -/
def Directive.Names (directive : Directive) (source : String) : Prop :=
  ∃ argument literal, directive.arguments = [argument] ∧ argument.name.text = "field"
    ∧ argument.value = .string literal ∧ literal.text = source

/-- The field `source` of the target, the first of this name, leads back to the entity `origin`. -/
def LeadsBack (definitions : List Definition) (origin source : String) (target : TypeDefinition) :
    Prop :=
  ∃ back, First (·.name.text = source) target.fields back ∧ back.type.HasBase origin
    ∧ HasEntity definitions origin

/-- What the rules ask of a directive that makes a field of `origin` a back-reference. -/
def BackReferenceRule (definitions : List Definition) (origin : String) (field : Field)
    (directive : Directive) : Prop :=
  ∃ source base, directive.Names source ∧ field.type.HasBase base
    ∧ (¬ HasEntity definitions base
      ∨ ∃ target, FirstEntity definitions base target
        ∧ LeadsBack definitions origin source target)

variable {definitions : List Definition} {origin source base : String}

/-! ## Checks that report one thing -/

/-- A check that reports unless its rule is kept is silent exactly if it is kept. -/
theorem unless_eq_nil_iff {rule : Prop} [Decidable rule] {finding : Finding} :
    (if rule then [] else [finding]) = [] ↔ rule := by
  by_cases h : rule
  · rw [if_pos h]
    exact ⟨fun _ => h, fun _ => rfl⟩
  · rw [if_neg h]
    exact ⟨fun hnil => (nomatch hnil), fun hrule => absurd hrule h⟩

/-- A check that reports a fault where there is one is silent exactly if there is none. -/
theorem when_eq_nil_iff {fault : Prop} [Decidable fault] {finding : Finding} :
    (if fault then [finding] else []) = [] ↔ ¬ fault := by
  rw [← ite_not, unless_eq_nil_iff]

/-! ## The form of the directive -/

/-- Of two sources that a directive names, one is the other. -/
theorem Directive.Names.unique {directive : Directive} {other : String}
    (h : directive.Names source) (h' : directive.Names other) : source = other := by
  obtain ⟨argument, literal, hargs, _, hvalue, rfl⟩ := h
  obtain ⟨argument', literal', hargs', _, hvalue', rfl⟩ := h'
  cases hargs.symm.trans hargs'
  cases hvalue.symm.trans hvalue'
  rfl

/-! ## The way back -/

theorem sourceIssue?_eq_none_iff {field : String} {target : TypeDefinition} :
    sourceIssue? definitions origin field source target = none
      ↔ LeadsBack definitions origin source target := by
  rw [sourceIssue?]
  cases hback : Field.find? target.fields source with
  | none =>
      refine ⟨fun h => (nomatch h), ?_⟩
      rintro ⟨back, hfirst, _⟩
      cases hback.symm.trans (Field.find?_eq_some_iff.mpr hfirst)
  | some back =>
      have hfirst := Field.find?_eq_some_iff.mp hback
      simp only
      cases hentity : entityNamed? definitions back.type.baseName with
      | none =>
          refine ⟨fun h => (nomatch h), ?_⟩
          rintro ⟨back', hfirst', hbase, horigin⟩
          cases First.unique hfirst hfirst'
          rw [TypeExpr.hasBase_iff.mp hbase] at hentity
          exact absurd horigin (entityNamed?_eq_none_iff.mp hentity)
      | some entity =>
          have hfound := entityNamed?_eq_some_iff.mp hentity
          have hname : entity.name.text = back.type.baseName := (First.holds hfound).2
          simp only
          by_cases horigin : entity.name.text = origin
          · rw [if_pos horigin]
            have hbase : back.type.baseName = origin := hname.symm.trans horigin
            refine ⟨fun _ => ⟨back, hfirst, TypeExpr.hasBase_iff.mpr hbase, ?_⟩, fun _ => rfl⟩
            exact hbase ▸ hfound.hasEntity
          · rw [if_neg horigin]
            refine ⟨fun h => (nomatch h), ?_⟩
            rintro ⟨back', hfirst', hbase, _⟩
            cases First.unique hfirst hfirst'
            exact absurd (hname.trans (TypeExpr.hasBase_iff.mp hbase)) horigin

/-- A directive of the right form is judged by the entity its field leads to, if there is one. -/
theorem backReferenceIssue?_of_names {field : Field} {directive : Directive}
    (h : directive.Names source) :
    backReferenceIssue? definitions origin field directive
      = (entityNamed? definitions field.type.baseName).bind
          (sourceIssue? definitions origin field.name.text source) := by
  obtain ⟨argument, literal, hargs, hname, hvalue, rfl⟩ := h
  rw [backReferenceIssue?, hargs]
  simp only [if_pos hname, hvalue]
  cases entityNamed? definitions field.type.baseName with
  | none => rfl
  | some target => rfl

/-- A directive of any other form is at fault. -/
theorem exists_names_of_backReferenceIssue?_eq_none {field : Field} {directive : Directive}
    (h : backReferenceIssue? definitions origin field directive = none) :
    ∃ source, directive.Names source := by
  rw [backReferenceIssue?] at h
  split at h
  next argument hargs =>
    by_cases hname : argument.name.text = "field"
    · rw [if_pos hname] at h
      split at h
      next literal hvalue => exact ⟨_, argument, literal, hargs, hname, hvalue, rfl⟩
      next => cases h
    · rw [if_neg hname] at h
      cases h
  next => cases h

theorem backReferenceIssue?_eq_none_iff {field : Field} {directive : Directive} :
    backReferenceIssue? definitions origin field directive = none
      ↔ BackReferenceRule definitions origin field directive := by
  constructor
  · intro h
    obtain ⟨source, hnames⟩ := exists_names_of_backReferenceIssue?_eq_none h
    refine ⟨source, _, hnames, field.type.hasBase_baseName, ?_⟩
    rw [backReferenceIssue?_of_names hnames] at h
    cases htarget : entityNamed? definitions field.type.baseName with
    | none => exact .inl (entityNamed?_eq_none_iff.mp htarget)
    | some target =>
        rw [htarget] at h
        exact .inr ⟨target, entityNamed?_eq_some_iff.mp htarget, sourceIssue?_eq_none_iff.mp h⟩
  · rintro ⟨source, base, hnames, hbase, hrule⟩
    rw [backReferenceIssue?_of_names hnames, TypeExpr.hasBase_iff.mp hbase]
    rcases hrule with hno | ⟨target, hfirst, hback⟩
    · rw [entityNamed?_eq_none_iff.mpr hno]
      rfl
    · rw [entityNamed?_eq_some_iff.mpr hfirst]
      exact sourceIssue?_eq_none_iff.mpr hback

theorem checkBackReference_eq_nil_iff {owner : Declaration} {field : Field}
    {directive : Directive} :
    checkBackReference definitions owner field directive = []
      ↔ BackReferenceRule definitions owner.name.text field directive := by
  rw [checkBackReference, List.map_eq_nil_iff, Option.toList_eq_nil_iff,
    backReferenceIssue?_eq_none_iff]

end EntitySchema
