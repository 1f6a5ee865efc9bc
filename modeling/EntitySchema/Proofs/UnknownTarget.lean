/-
# `EntitySchema.Proofs.UnknownTarget` — one cause, one finding

If the type of a field is unknown, this is reported, and then nothing can be said of the entity
that a back-reference on the field should lead to.  The two checks do not know of each other: one
looks for the name among those that a field may have, the other for an entity of the name.  What
joins them is that the name of an entity is a local name, and so a known one (`HasEntity.isKnown`).
Hence beside an unknown type only the form of a directive is ever at fault
(`topic_of_unknownType`).
-/
import EntitySchema.Proofs.Bare
import EntitySchema.Proofs.Faults
import EntitySchema.Proofs.FirstFault

namespace EntitySchema

variable {definitions : List Definition} {owner : Declaration} {field : Field} {issue : Issue}

/-- That a type is unknown is reported only of a field whose type is unknown. -/
theorem FieldFault.not_isKnown {origin : String} {span : Option Span}
    (h : FieldFault definitions origin field span issue) (htopic : issue.topic = .type) :
    ¬ IsKnown definitions field.type.baseName := by
  cases h with
  | elements _ _ => cases htopic
  | unknown hunknown => exact hunknown
  | arguments _ => cases htopic
  | backReference _ _ hissue =>
      have hfirst := backReferenceIssue?_eq_iff.mp hissue
      exact absurd htopic (hfirst.topic_ne (by decide) (by decide))

/-- What is reported about a target is a fault of a back-reference. -/
theorem FieldFault.exists_firstFault {origin : String} {span : Option Span}
    (h : FieldFault definitions origin field span issue) (htopic : issue.topic = .target) :
    ∃ directive, FirstFault definitions origin field directive (some issue) := by
  cases h with
  | elements _ _ => cases htopic
  | unknown _ => cases htopic
  | arguments _ => cases htopic
  | backReference _ _ hissue => exact ⟨_, backReferenceIssue?_eq_iff.mp hissue⟩

/-- **Beside an unknown type.**  If the checks of a field report that its type is unknown, then they
report of a back-reference on the field only that its directive does not name a field by a string,
and nothing about a target. -/
theorem topic_of_unknownType
    (hunknown : ∃ finding ∈ checkField definitions (knownNames definitions) owner field,
      finding.issue.topic = .type) :
    (∀ finding ∈ checkBackReferences definitions owner field,
        finding.issue.topic = .form
          ∧ ∃ directive ∈ field.directives, directive.name.text = "derivedFrom"
            ∧ (∀ source, ¬ directive.Names source)
            ∧ finding.location = Span.orPlaceholder directive.span)
      ∧ ∀ finding ∈ checkField definitions (knownNames definitions) owner field,
          finding.issue.topic ≠ .target := by
  obtain ⟨_, hfound, hissue⟩ := hunknown
  obtain ⟨_, _, hfault, rfl⟩ := mem_checkField_iff.mp hfound
  have hnone : ¬ HasEntity definitions field.type.baseName :=
    fun hentity => hfault.not_isKnown hissue hentity.isKnown
  have hbase : field.type.HasBase field.type.baseName := field.type.hasBase_baseName
  refine ⟨?_, ?_⟩
  · intro finding hmem
    obtain ⟨directive, hdirective, hderived, issue, hissue, rfl⟩ :=
      mem_checkBackReferences_iff.mp hmem
    obtain ⟨hform, hnames⟩ := (backReferenceIssue?_eq_iff.mp hissue).not_names hbase hnone
    exact ⟨hform, directive, hdirective, hderived, hnames, rfl⟩
  · intro finding hmem htarget
    obtain ⟨_, _, hfault, rfl⟩ := mem_checkField_iff.mp hmem
    obtain ⟨directive, hfirst⟩ := hfault.exists_firstFault htarget
    cases htarget.symm.trans (hfirst.not_names hbase hnone).1

/-! ## A small schema -/

section Schema

open Bare

/-- A field with a mistyped type and two back-references, one of which names no field. -/
def mistyped : Field :=
  Bare.field "tokens" (required (listOf (required (named "Tokn"))))
    [derivedFrom "owner", directive "derivedFrom" []]

def user : TypeDefinition := entity "User" [mistyped]

end Schema

theorem topic_mistyped :
    checkField [.type user] (knownNames [.type user]) user.declaration mistyped
        = [user.declaration.finding none (.unknownType "tokens" "Tokn"),
          user.declaration.finding none (.derivedFromArguments "tokens")]
      ∧ (∀ finding ∈ checkBackReferences [.type user] user.declaration mistyped,
          finding.issue.topic = .form)
      ∧ ∀ finding ∈ checkField [.type user] (knownNames [.type user]) user.declaration mistyped,
          finding.issue.topic ≠ .target := by
  have hfound : checkField [.type user] (knownNames [.type user]) user.declaration mistyped
      = [user.declaration.finding none (.unknownType "tokens" "Tokn"),
        user.declaration.finding none (.derivedFromArguments "tokens")] := rfl
  have hforms := topic_of_unknownType ⟨_, hfound ▸ List.mem_cons_self, rfl⟩
  exact ⟨hfound, fun finding hmem => (hforms.1 finding hmem).1, hforms.2⟩

end EntitySchema
