/-
# `EntitySchema.Proofs.NestedLists` — lists inside lists

A list of a field must not have elements that may be null.  The check looks at one list, the one
that the type of the field is, bare or in a non-null mark; in a type of the grammar this is the
outermost one (`listsOf_iff_hasListOf`).  It is silent exactly if the elements of this list have a
mark (`nullableElements_unreported_iff`).  What stands inside the elements is not looked at, and so
`[[Int]!]!` is accepted, a list of lists whose elements may be null.
-/
import EntitySchema.Proofs.Bare
import EntitySchema.Proofs.Faults
import EntitySchema.Proofs.FirstFault

namespace EntitySchema

/-- `t.HasListOf depth element`: in `t` stands a list of `element`, inside `depth` other lists. -/
inductive TypeExpr.HasListOf : TypeExpr → Nat → TypeExpr → Prop
  | here {span : Option Span} {element : TypeExpr} : HasListOf (.list span element) 0 element
  | list {span : Option Span} {inner element : TypeExpr} {depth : Nat} :
      HasListOf inner depth element → HasListOf (.list span inner) (depth + 1) element
  | nonNull {mark : Option Span} {inner element : TypeExpr} {depth : Nat} :
      HasListOf inner depth element → HasListOf (.nonNull mark inner) depth element

variable {definitions : List Definition} {owner : Declaration} {field : Field} {finding : Finding}

/-! ## Which list is looked at -/

theorem TypeExpr.hasListOf_of_listsOf {t element : TypeExpr} (h : t.ListsOf element) :
    t.HasListOf 0 element := by
  cases h with
  | bare => exact .here
  | marked => exact .nonNull .here

/-- In a type of the grammar, the list that is looked at is the one that stands in no other. -/
theorem TypeExpr.listsOf_iff_hasListOf {t element : TypeExpr} (h : t.IsGrammatical) :
    t.ListsOf element ↔ t.HasListOf 0 element := by
  refine ⟨hasListOf_of_listsOf, fun hlist => ?_⟩
  cases hlist with
  | here => exact .bare
  | nonNull hinner =>
      cases hinner with
      | here => exact .marked
      -- The grammar puts no mark right inside another.
      | nonNull _ => exact nomatch h.1

/-! ## What is reported of it -/

/-- Whatever names are known, the check of the list is the one that reports its elements. -/
theorem mem_checkElements_iff_topic (definitions : List Definition) (known : List String) :
    finding ∈ checkElements owner field
      ↔ finding ∈ checkField definitions known owner field ∧ finding.issue.topic = .elements := by
  simp only [checkField, List.mem_append]
  constructor
  · intro hmem
    obtain ⟨element, _, hfinding⟩ := mem_checkElements_iff.mp hmem
    refine ⟨.inl (.inl (.inl hmem)), ?_⟩
    rw [hfinding]
    rfl
  · rintro ⟨((helements | hknown) | harguments) | hback, htopic⟩
    · exact helements
    · rw [checkKnown, List.mem_ite_nil_left, List.mem_singleton] at hknown
      obtain ⟨_, rfl⟩ := hknown
      cases htopic
    · obtain ⟨_, rfl⟩ := mem_checkNoArguments_iff.mp harguments
      cases htopic
    · obtain ⟨_, _, _, _, hfault, rfl⟩ := mem_checkBackReferences_iff.mp hback
      have hfirst := backReferenceIssue?_eq_iff.mp hfault
      exact absurd htopic (hfirst.topic_ne (by decide) (by decide))

/-- **Which lists are accepted.**  The checks of a field report no elements that may be null exactly
if the type of the field is no list, bare or in a mark, of elements without a mark.  In a type of
the grammar this list is the only one that stands in no other. -/
theorem nullableElements_unreported_iff (definitions : List Definition) (known : List String)
    (owner : Declaration) (field : Field) :
    ((∀ finding ∈ checkField definitions known owner field,
          finding.issue.topic ≠ .elements)
        ↔ ∀ element, field.type.ListsOf element → element.Marked)
      ∧ (field.type.IsGrammatical →
          ∀ element, field.type.ListsOf element ↔ field.type.HasListOf 0 element) := by
  refine ⟨?_, fun h element => TypeExpr.listsOf_iff_hasListOf h⟩
  have hsilent : checkElements owner field = []
      ↔ ∀ element, field.type.ListsOf element → element.Marked := checkElements_eq_nil_iff
  rw [← hsilent, List.eq_nil_iff_forall_not_mem]
  refine forall_congr' fun finding => ?_
  rw [mem_checkElements_iff_topic definitions known, not_and]

/-! ## A list of lists -/

section Schema

open Bare

/-- A field whose rows are there, and whose cells may be missing. -/
def cells : Field :=
  Bare.field "cells" (required (listOf (required (listOf (named "Int"))))) []

def grid : TypeDefinition := entity "Grid" [cells]

end Schema

theorem nullableElements_unreported_cells :
    (∀ finding ∈ checkField [.type grid] (knownNames [.type grid]) grid.declaration cells,
        finding.issue.topic ≠ .elements)
      ∧ cells.type.IsGrammatical
      ∧ ∀ element, cells.type.HasListOf 0 element → element.Marked := by
  have helements : ∀ element, cells.type.ListsOf element → element.Marked := by
    intro element hlists
    cases hlists with | marked => exact .nonNull
  have hgrammatical : cells.type.IsGrammatical :=
    ⟨rfl, rfl, by decide, List.all_eq_true.mp rfl⟩
  have hrule := nullableElements_unreported_iff [.type grid] (knownNames [.type grid])
    grid.declaration cells
  refine ⟨hrule.1.mpr helements, hgrammatical, fun element hlist => ?_⟩
  exact helements element ((hrule.2 hgrammatical element).mpr hlist)

/-- A list inside another may have elements that may be null, and nothing is reported. -/
theorem not_forall_hasListOf_marked :
    ¬ ∀ (definitions : List Definition) (type : TypeDefinition) (field : Field),
      type.IsObject → field ∈ type.fields →
      (∀ finding ∈ checkField definitions (knownNames definitions) type.declaration field,
        finding.issue.topic ≠ .elements) →
      ∀ depth element, field.type.HasListOf depth element → element.Marked := by
  intro h
  have hnone : checkField [.type grid] (knownNames [.type grid]) grid.declaration cells = [] := rfl
  have hinner : cells.type.HasListOf 1 (Bare.named "Int") :=
    .nonNull (.list (.nonNull .here))
  have hmarked := h [.type grid] grid cells ⟨_, _, rfl⟩ (List.mem_cons_of_mem _ List.mem_cons_self)
    (fun finding hmem => nomatch hnone ▸ hmem) 1 _ hinner
  cases hmarked

end EntitySchema
