/-
# `EntitySchema.Rule.BackReference` — fields that are derived from the other side

A field with `@derivedFrom(field: "…")` stores nothing: its values are the entities whose field of
that name leads back.  So the directive has to name a field of the entity that the annotated field
leads to, and that field has to lead back to the type it started from.  A field that leads to no
entity of the schema is not looked at: its type is imported, or it is reported as unknown.
-/
import EntitySchema.Document.TypeExpr
import EntitySchema.Symbols

namespace EntitySchema

/-- A finding about a declaration, at the span of one of its nodes. -/
def Declaration.finding (owner : Declaration) (span : Option Span) (issue : Issue) : Finding :=
  ⟨Span.orPlaceholder span, owner.name.text, issue⟩

/-- What is wrong with the field `source` of an entity, if it has to lead back to `origin`. -/
def sourceIssue? (definitions : List Definition) (origin field source : String)
    (target : TypeDefinition) : Option Issue :=
  match Field.find? target.fields source with
  | none => some (.derivedFromMissing field source target.name.text)
  | some back =>
      match entityNamed? definitions back.type.baseName with
      | none => some (.derivedFromType field source target.name.text origin)
      | some entity =>
          if entity.name.text = origin then none
          else some (.derivedFromType field source target.name.text origin)

/-- What is wrong with a back-reference that a directive declares on a field of the type `origin`:
its first fault. -/
def backReferenceIssue? (definitions : List Definition) (origin : String) (field : Field)
    (directive : Directive) : Option Issue :=
  match directive.arguments with
  | [argument] =>
      if argument.name.text = "field" then
        match argument.value with
        | .string literal =>
            match entityNamed? definitions field.type.baseName with
            | none => none
            | some target =>
                sourceIssue? definitions origin field.name.text literal.text target
        | _ => some (.derivedFromValue field.name.text)
      else some (.derivedFromArguments field.name.text)
  | _ => some (.derivedFromArguments field.name.text)

/-- The findings about one back-reference, at its directive: at most one. -/
def checkBackReference (definitions : List Definition) (owner : Declaration) (field : Field)
    (directive : Directive) : List Finding :=
  (backReferenceIssue? definitions owner.name.text field directive).toList.map
    (owner.finding directive.span)

end EntitySchema
