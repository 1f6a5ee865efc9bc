/-
# `EntitySchema.Proofs.Ambiguity` — how many meanings the name of a type has

The type of a field may be a built-in scalar, a local type or an imported one.  In a clean schema
every field has a known type, and no name is declared or imported twice; so of the three sources
the last two have a name once at most.  The rule on names does not look at the first: a local or an
imported type may be called like a scalar, and then the name means two things.  There is no other
way in which the name of a field's type could be ambiguous (`count_knownNames`).
-/
import EntitySchema.Proofs.Bare
import EntitySchema.Proofs.Verdict

namespace EntitySchema

variable {definitions : List Definition} {base : String}

theorem Scalar.nodup_names : Scalar.names.Nodup := by decide

theorem count_gatheredNames_le_one (hclean : validate definitions = []) :
    (gatheredNames definitions).count base ≤ 1 :=
  List.nodup_iff_count_le_one.mp
    (nodup_gatheredNames_iff.mpr (validate_eq_nil_iff.mp hclean).names) base

/-- The type of a field is known in a clean schema. -/
theorem mem_knownNames_of_field {type : TypeDefinition} {field : Field}
    (hclean : validate definitions = []) (hmem : Definition.type type ∈ definitions)
    (hobject : type.IsObject) (hname : type.name.text ≠ "_Schema_") (hfield : field ∈ type.fields)
    (hbase : field.type.HasBase base) : base ∈ knownNames definitions := by
  have hrules := (validate_eq_nil_iff.mp hclean).entities type hmem hobject hname
  obtain ⟨base', hbase', hknown⟩ := (hrules.fields field hfield).known
  cases hbase.unique hbase'
  exact mem_knownNames.mpr hknown

/-- **What the type of a field means in a clean schema.**  Its name is declared or imported once at
most.  Counted among the built-in scalars as well it occurs exactly once, unless a declared or
imported type is called like a scalar: then it occurs exactly twice. -/
theorem count_knownNames {type : TypeDefinition} {field : Field}
    (hclean : validate definitions = []) (hmem : Definition.type type ∈ definitions)
    (hobject : type.IsObject) (hname : type.name.text ≠ "_Schema_") (hfield : field ∈ type.fields)
    (hbase : field.type.HasBase base) :
    (gatheredNames definitions).count base ≤ 1
      ∧ (knownNames definitions).count base
        = if base ∈ Scalar.names ∧ base ∈ gatheredNames definitions then 2 else 1 := by
  have hgathered : (gatheredNames definitions).count base ≤ 1 := count_gatheredNames_le_one hclean
  have hscalar : Scalar.names.count base ≤ 1 :=
    List.nodup_iff_count_le_one.mp Scalar.nodup_names base
  have hcount : (knownNames definitions).count base
      = Scalar.names.count base + (gatheredNames definitions).count base := by
    rw [knownNames, List.append_assoc, List.count_append, gatheredNames]
  have hknown : 0 < (knownNames definitions).count base :=
    List.count_pos_iff.mpr (mem_knownNames_of_field hclean hmem hobject hname hfield hbase)
  refine ⟨hgathered, ?_⟩
  simp only [← List.count_pos_iff]
  split
  · omega
  · omega

/-! ## Small schemas -/

section Schemas

open Bare

/-- An enumeration that is called like the scalar of all identifiers, beside an entity. -/
def ownId : List Definition :=
  [.type (entity "Pool" []), .type ⟨none, none, name "ID", [], .enum []⟩]

def poolSwaps : Field := field "swaps" (required (listOf (required (named "Swap")))) []

def poolWithSwaps : List Definition :=
  [.type (entity "Pool" [poolSwaps]), .type (entity "Swap" [])]

end Schemas

theorem count_knownNames_swap :
    validate poolWithSwaps = [] ∧ (knownNames poolWithSwaps).count "Swap" = 1 := by
  have hclean : validate poolWithSwaps = [] := by decide
  have hswaps : poolSwaps ∈ (Bare.entity "Pool" [poolSwaps]).fields :=
    List.mem_cons_of_mem _ List.mem_cons_self
  have hcount := count_knownNames hclean List.mem_cons_self ⟨_, _, rfl⟩ (by decide) hswaps
    (TypeExpr.hasBase_iff.mpr rfl)
  exact ⟨hclean, hcount.2.trans (by decide)⟩

/-- The identifier of an entity may have a type with two meanings. -/
theorem not_forall_count_eq_one :
    ¬ ∀ (definitions : List Definition) (type : TypeDefinition) (field : Field) (base : String),
      validate definitions = [] → Definition.type type ∈ definitions → type.IsObject →
      type.name.text ≠ "_Schema_" → field ∈ type.fields → field.type.HasBase base →
      (knownNames definitions).count base = 1 := by
  intro h
  have hone := h ownId (Bare.entity "Pool" [])
    (Bare.field "id" (Bare.required (Bare.named "ID")) []) "ID" (by decide)
    List.mem_cons_self ⟨_, _, rfl⟩ (by decide) List.mem_cons_self
    (TypeExpr.hasBase_iff.mpr rfl)
  exact absurd hone (by decide)

end EntitySchema
