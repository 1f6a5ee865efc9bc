/-
# `EntitySchema.Proofs.Order` — the order of the definitions

What is found does not depend on the order of the definitions, as long as no two entities share a
name.  A definition sees its siblings through their summary.  Of the summary, the names are a set,
and the first entity with a name is the only one, so it is found wherever it stands
(`summary_perm`).  Hence the findings about a definition are the same, one by one, and only the
blocks of different definitions change places.  The names that collide are found by a scan of all
names, in which another order can only bring another order of the reports.

Two entities of one name are different: a back-reference leads to the first of them.  All other
names may collide.
-/
import EntitySchema.Proofs.Summary

namespace EntitySchema

/-- A definition defines an entity of this name. -/
def Definition.DefinesEntity (definition : Definition) (name : String) : Prop :=
  ∃ type, definition = .type type ∧ type.IsEntity ∧ type.name.text = name

variable {definitions permuted : List Definition} {name : String}

theorem Apart.perm {α : Type} {names : α → String → Prop} {l l' : List α} (h : Apart names l)
    (hperm : l'.Perm l) : Apart names l' := by
  refine (hperm.pairwise_iff ?_).mpr h
  intro left right hne name hright hleft
  exact hne name hleft hright

/-- Whether two entities share a name can be read off the list of their names. -/
theorem nodup_entityNames_iff :
    (((typeDefinitions definitions).filter (·.isEntity)).map (·.name.text)).Nodup
      ↔ Apart Definition.DefinesEntity definitions := by
  rw [nodup_map_iff, apart_filter_typeDefinitions]
  simp only [TypeDefinition.isEntity_iff]
  exact Iff.rfl

/-! ## What a definition sees -/

/-- An entity that shares its name with no other is found wherever it stands. -/
theorem entityNamed?_eq_some_iff_mem (h : Apart Definition.DefinesEntity definitions)
    {target : TypeDefinition} :
    entityNamed? definitions name = some target
      ↔ Definition.type target ∈ definitions ∧ target.IsEntity ∧ target.name.text = name := by
  constructor
  · intro hfound
    have hfirst := entityNamed?_eq_some_iff.mp hfound
    exact ⟨hfirst.mem, hfirst.holds⟩
  · rintro ⟨hmem, hentity, hname⟩
    cases hfound : entityNamed? definitions name with
    | none => exact absurd ⟨target, hmem, hentity, hname⟩ (entityNamed?_eq_none_iff.mp hfound)
    | some other =>
        have hfirst := entityNamed?_eq_some_iff.mp hfound
        have hsame : Definition.type other = Definition.type target :=
          h.eq_of_mem hfirst.mem hmem ⟨other, rfl, hfirst.holds⟩
            ⟨target, rfl, hentity, hname⟩
        cases hsame
        rfl

theorem entityNamed?_perm (h : Apart Definition.DefinesEntity definitions)
    (hperm : permuted.Perm definitions) :
    entityNamed? permuted = entityNamed? definitions := by
  refine funext fun name => Option.ext fun target => ?_
  rw [entityNamed?_eq_some_iff_mem h, entityNamed?_eq_some_iff_mem (h.perm hperm), hperm.mem_iff]

theorem localNames_perm (hperm : permuted.Perm definitions) :
    (localNames permuted).Perm (localNames definitions) :=
  ((hperm.filterMap _).filter _).map _

theorem importedNames_perm (hperm : permuted.Perm definitions) :
    (importedNames permuted).Perm (importedNames definitions) :=
  ((hperm.filterMap _).filter _).flatMap_right _

theorem gatheredNames_perm (hperm : permuted.Perm definitions) :
    (gatheredNames permuted).Perm (gatheredNames definitions) :=
  (localNames_perm hperm).append (importedNames_perm hperm)

theorem summary_perm (h : Apart Definition.DefinesEntity definitions)
    (hperm : permuted.Perm definitions) : summary permuted = summary definitions := by
  rw [summary, summary, entityNamed?_perm h hperm]
  simp only [(gatheredNames_perm hperm).mem_iff]

/-! ## What is found -/

theorem checkNames_perm (hperm : permuted.Perm definitions) :
    (checkNames permuted).Perm (checkNames definitions) := by
  rw [checkNames_eq_map, checkNames_eq_map]
  exact (repeatedNames_perm (gatheredNames_perm hperm)).map collision

/-- **Another order of the definitions finds the same.**  If no two entities share a name, each
definition has the same findings in the same order, the same names collide, and so all findings
together are the same up to their order. -/
theorem validate_perm (h : Apart Definition.DefinesEntity definitions)
    (hperm : permuted.Perm definitions) :
    (∀ definition, checkDefinition permuted definition = checkDefinition definitions definition)
      ∧ validate permuted
          = permuted.flatMap (checkDefinition definitions) ++ checkNames permuted
      ∧ (checkNames permuted).Perm (checkNames definitions)
      ∧ (validate permuted).Perm (validate definitions) := by
  have hdefinition : checkDefinition permuted = checkDefinition definitions :=
    funext (checkDefinition_congr (summary_perm h hperm))
  have hblocks : validate permuted
      = permuted.flatMap (checkDefinition definitions) ++ checkNames permuted := by
    rw [validate, hdefinition]
  refine ⟨congrFun hdefinition, hblocks, checkNames_perm hperm, ?_⟩
  rw [hblocks]
  exact (hperm.flatMap_right _).append (checkNames_perm hperm)

/-! ## A small schema -/

section Schemas

open Bare

/-- An entity with a back-reference that leads nowhere, and an enumeration of the same name. -/
def namesakes : List Definition :=
  [.type (entity "Pool" [field "swaps" (named "Swap") [derivedFrom "pool"]]),
    .type ⟨none, none, Bare.name "Pool", [], .enum []⟩,
    .type (entity "Swap" [])]

end Schemas

theorem validate_namesakes_reverse :
    Apart Definition.DefinesEntity namesakes ∧ namesakes.reverse.Perm namesakes
      ∧ (validate namesakes).length = 2
      ∧ (validate namesakes.reverse).Perm (validate namesakes) := by
  have hapart : Apart Definition.DefinesEntity namesakes := nodup_entityNames_iff.mp (by decide)
  have hperm : namesakes.reverse.Perm namesakes := List.reverse_perm _
  obtain ⟨_, _, _, hvalidate⟩ := validate_perm hapart hperm
  exact ⟨hapart, hperm, rfl, hvalidate⟩

end EntitySchema
