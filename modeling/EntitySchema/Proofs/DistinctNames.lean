/-
# `EntitySchema.Proofs.DistinctNames` — no name is declared or imported twice

The local names of a schema and the names it imports are meant to be distinct: no two types declare
the same name, no two entries of imports show the same name, and no entry shows a local name.
`DistinctNames` says this of the definitions, level by level: of import types, of the directives of
one type, and of the entries of one directive.  The rule on names scans the two lists of names for
one that comes up again, and is silent exactly then.
-/
import EntitySchema.Proofs.Names
import EntitySchema.Proofs.Repetition
import Mathlib.Data.List.Nodup
import Mathlib.Data.List.Pairwise

namespace EntitySchema

/-- No two members of the list, at different places, share a name. -/
def Apart {α : Type} (names : α → String → Prop) (l : List α) : Prop :=
  l.Pairwise fun left right => ∀ name, names left name → ¬ names right name

/-- A definition declares the name of an object type, an interface or an enumeration. -/
def Definition.Declares (definition : Definition) (name : String) : Prop :=
  ∃ type, definition = .type type ∧ (type.IsObject ∨ type.IsInterface ∨ type.IsEnum)
    ∧ type.name.text = name

/-- A definition imports what the directives of an import type do. -/
def Definition.Imports (definition : Definition) (name : String) : Prop :=
  ∃ type, definition = .type type ∧ type.IsImportType
    ∧ ∃ directive ∈ type.directives, directive.Imports name

/-- An import type imports no name twice. -/
structure ImportsOnce (type : TypeDefinition) : Prop where
  directives : Apart Directive.Imports type.directives
  entries : ∀ directive ∈ type.directives, directive.name.text = "import" →
    ∀ items, directive.Lists items → Apart Value.Shows items

/-- A schema declares and imports no name twice. -/
structure DistinctNames (definitions : List Definition) : Prop where
  declared : Apart Definition.Declares definitions
  imported : Apart Definition.Imports definitions
  importTypes : ∀ type, Definition.type type ∈ definitions → type.IsImportType → ImportsOnce type
  notImported : ∀ name, IsLocal definitions name → ¬ Imports definitions name

variable {definitions : List Definition}

/-! ## Lists of names -/

section Lists

variable {α : Type} {names other : α → String → Prop} {l : List α}

/-- Members that have fewer names are still apart. -/
theorem Apart.mono (hapart : Apart names l) (h : ∀ {a name}, other a name → names a name) :
    Apart other l := by
  refine List.Pairwise.imp ?_ hapart
  intro left right hne name hname hname'
  exact hne name (h hname) (h hname')

/-- What shares a name in such a list is the same. -/
theorem Apart.eq_of_mem (hapart : Apart names l) {a b : α} {name : String} (ha : a ∈ l)
    (hb : b ∈ l) (hname : names a name) (hname' : names b name) : a = b := by
  have hsymm : Std.Symm fun left right => ∀ name, names left name → ¬ names right name :=
    ⟨fun _ _ hne other hother hother' => hne other hother' hother⟩
  by_contra hne
  exact List.Pairwise.forall hapart ha hb hne name hname hname'

theorem nodup_map_iff {f : α → String} :
    (l.map f).Nodup ↔ Apart (fun a name => f a = name) l := by
  rw [List.Nodup, List.pairwise_map, Apart]
  simp only [forall_eq', ne_comm]

theorem nodup_filterMap_iff {f : α → Option String} :
    (l.filterMap f).Nodup ↔ Apart (fun a name => f a = some name) l := by
  rw [List.Nodup, List.pairwise_filterMap, Apart]
  constructor
  · intro h
    refine h.imp ?_
    intro left right hne name hname hname'
    exact hne name hname name hname' rfl
  · intro h
    refine h.imp ?_
    rintro left right hne name hname _ hname' rfl
    exact hne name hname hname'

theorem nodup_flatMap_iff {f : α → List String} :
    (l.flatMap f).Nodup ↔ (∀ a ∈ l, (f a).Nodup) ∧ Apart (fun a name => name ∈ f a) l :=
  List.nodup_flatMap

end Lists

/-- The types of one kind are apart if the definitions are, as far as they define such types. -/
theorem apart_filter_typeDefinitions {test : TypeDefinition → Bool}
    {names : TypeDefinition → String → Prop} :
    Apart names ((typeDefinitions definitions).filter test)
      ↔ Apart (fun (definition : Definition) name =>
          ∃ type, definition = .type type ∧ test type = true ∧ names type name) definitions := by
  rw [Apart, List.pairwise_filter, typeDefinitions, List.pairwise_filterMap, Apart]
  constructor
  · intro h
    refine h.imp ?_
    rintro _ _ hne name ⟨left, rfl, hleft, hname⟩ ⟨right, rfl, hright, hname'⟩
    exact hne left rfl right rfl hleft hright name hname hname'
  · intro h
    refine h.imp ?_
    intro _ _ hne left hleftType right hrightType hleft hright name hname hname'
    exact hne name ⟨left, Definition.type?_eq_some_iff.mp hleftType, hleft, hname⟩
      ⟨right, Definition.type?_eq_some_iff.mp hrightType, hright, hname'⟩

/-! ## The two lists -/

theorem nodup_localNames_iff :
    (localNames definitions).Nodup ↔ Apart Definition.Declares definitions := by
  rw [localNames, nodup_map_iff, apart_filter_typeDefinitions]
  simp only [TypeDefinition.isUsable_iff]
  exact Iff.rfl

theorem nodup_directive_importedNames_iff {directive : Directive} :
    directive.importedNames.Nodup
      ↔ (directive.name.text = "import" →
          ∀ items, directive.Lists items → Apart Value.Shows items) := by
  constructor
  · intro h himport items hlists
    rw [importedNames_of_lists himport hlists, nodup_filterMap_iff] at h
    exact h.mono visibleName?_eq_some_iff.mpr
  · intro h
    by_cases hlists : directive.name.text = "import" ∧ ∃ items, directive.Lists items
    · obtain ⟨himport, items, hlists⟩ := hlists
      rw [importedNames_of_lists himport hlists, nodup_filterMap_iff]
      exact (h himport items hlists).mono visibleName?_eq_some_iff.mp
    · have hnil : directive.importedNames = [] := by
        refine List.eq_nil_iff_forall_not_mem.mpr fun name hname => ?_
        obtain ⟨himport, items, hitems, _⟩ := mem_directive_importedNames.mp hname
        exact hlists ⟨himport, items, hitems⟩
      rw [hnil]
      exact List.nodup_nil

theorem nodup_flatMap_importedNames_iff {type : TypeDefinition} :
    (type.directives.flatMap Directive.importedNames).Nodup ↔ ImportsOnce type := by
  rw [nodup_flatMap_iff]
  simp only [nodup_directive_importedNames_iff, mem_directive_importedNames]
  constructor
  · rintro ⟨hentries, hdirectives⟩
    exact ⟨hdirectives, hentries⟩
  · intro h
    exact ⟨h.entries, h.directives⟩

theorem nodup_importedNames_iff :
    (importedNames definitions).Nodup
      ↔ Apart Definition.Imports definitions
        ∧ ∀ type, Definition.type type ∈ definitions → type.IsImportType → ImportsOnce type := by
  rw [importedNames, nodup_flatMap_iff, apart_filter_typeDefinitions, and_comm]
  simp only [nodup_flatMap_importedNames_iff, List.mem_filter, mem_typeDefinitions,
    TypeDefinition.isImportType_iff, List.mem_flatMap, mem_directive_importedNames, and_imp]
  exact Iff.rfl

/-- The scanned list repeats no name exactly if the names of the schema are distinct. -/
theorem nodup_gatheredNames_iff :
    (gatheredNames definitions).Nodup ↔ DistinctNames definitions := by
  rw [gatheredNames, List.nodup_append', nodup_localNames_iff, nodup_importedNames_iff,
    List.disjoint_left]
  simp only [mem_localNames, mem_importedNames]
  constructor
  · rintro ⟨hdeclared, ⟨himported, htypes⟩, hnotImported⟩
    exact ⟨hdeclared, himported, htypes, hnotImported⟩
  · intro h
    exact ⟨h.declared, ⟨h.imported, h.importTypes⟩, h.notImported⟩

/-- Distinct names belong to one type each. -/
theorem DistinctNames.eq_of_name_eq (h : DistinctNames definitions) {left right : TypeDefinition}
    (hleft : Definition.type left ∈ definitions)
    (hleftUsable : left.IsObject ∨ left.IsInterface ∨ left.IsEnum)
    (hright : Definition.type right ∈ definitions)
    (hrightUsable : right.IsObject ∨ right.IsInterface ∨ right.IsEnum)
    (hname : left.name.text = right.name.text) : left = right := by
  have hsame : Definition.type left = Definition.type right :=
    h.declared.eq_of_mem hleft hright ⟨left, rfl, hleftUsable, hname⟩
      ⟨right, rfl, hrightUsable, rfl⟩
  cases hsame
  rfl

/-! ## The rule -/

/-- The rule on names is silent exactly if the names of the schema are distinct. -/
theorem checkCollisions_eq_nil_iff :
    checkCollisions (localNames definitions) (importedNames definitions) = []
      ↔ DistinctNames definitions := by
  rw [checkCollisions, List.map_eq_nil_iff, repeatedNames_eq_nil_iff, ← gatheredNames,
    nodup_gatheredNames_iff]

end EntitySchema
