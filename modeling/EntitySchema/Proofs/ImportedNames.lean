/-
# `EntitySchema.Proofs.ImportedNames` — what the rules accept, and what is imported

An entry of an import is read twice: by the rules, which count its fields and look at their names,
and when names are gathered, which takes the first field `as`.  The rules allow a field name to be
repeated.  So an entry with two fields `name` passes, although it has no alias, and no name of it is
gathered.  That is the only entry which is lost: from an import type that keeps the rules every
other entry shows one name, and the names come in the order of the entries
(`gathers_importedNames`).
-/
import EntitySchema.Proofs.Bare
import EntitySchema.Proofs.Import

namespace EntitySchema

/-- An entry of an import that has two fields, both called `name`. -/
inductive Value.NamesTwice : Value → Prop
  | object {span : Option Span} {left right : ObjectField} :
      left.name.text = "name" → right.name.text = "name" → NamesTwice (.object span [left, right])

/-- `Gathers items names`: the names are those that the entries show, in order, and an entry that
shows none has two fields `name`. -/
inductive Gathers : List Value → List String → Prop
  | nil : Gathers [] []
  | shown {item : Value} {name : String} {items : List Value} {names : List String} :
      item.Shows name → Gathers items names → Gathers (item :: items) (name :: names)
  | lost {item : Value} {items : List Value} {names : List String} :
      item.NamesTwice → Gathers items names → Gathers (item :: items) names

/-! ## Entries -/

/-- The rules let the two fields of an entry have the same name; if that is `as`, the first one
counts. -/
theorem Value.IsImportEntry.shows_or_namesTwice {item : Value} (h : item.IsImportEntry) :
    (∃ name, item.Shows name) ∨ item.NamesTwice := by
  cases h with
  | string => exact .inl ⟨_, .string⟩
  | @object _ left right hleft hright =>
      obtain ⟨hleftName, leftLiteral, hleftValue⟩ := hleft
      obtain ⟨hrightName, rightLiteral, hrightValue⟩ := hright
      rcases hleftName with hleftName | hleftAs
      · rcases hrightName with hrightName | hrightAs
        · exact .inr (.object hleftName hrightName)
        · have hother : ¬ left.name.text = "as" := by
            rw [hleftName]
            decide
          exact .inl ⟨_, .object (.later hother (.here hrightAs)) hrightValue⟩
      · exact .inl ⟨_, .object (.here hleftAs) hleftValue⟩

theorem Value.NamesTwice.not_shows {item : Value} (h : item.NamesTwice) (name : String) :
    ¬ item.Shows name := by
  intro hshows
  cases h with
  | object hleft hright =>
      cases hshows with
      | object hfirst _ =>
          have hname := First.holds hfirst
          rcases List.mem_cons.mp (First.mem hfirst) with rfl | hmem
          · exact absurd (hleft.symm.trans hname) (by decide)
          · cases List.mem_singleton.mp hmem
            exact absurd (hright.symm.trans hname) (by decide)

/-! ## Lists of entries -/

theorem gathers_filterMap {items : List Value} (h : ∀ item ∈ items, item.IsImportEntry) :
    Gathers items (items.filterMap visibleName?) := by
  induction items with
  | nil => exact .nil
  | cons item rest ih =>
      have hrest := ih fun other hother => h other (List.mem_cons_of_mem _ hother)
      rcases (h item List.mem_cons_self).shows_or_namesTwice with ⟨name, hshows⟩ | htwice
      · rw [List.filterMap_cons_some (visibleName?_eq_some_iff.mpr hshows)]
        exact .shown hshows hrest
      · have hnone : visibleName? item = none :=
          Option.eq_none_iff_forall_ne_some.mpr fun name hname =>
            htwice.not_shows name (visibleName?_eq_some_iff.mp hname)
        rw [List.filterMap_cons_none hnone]
        exact .lost htwice hrest

/-- One name for each entry comes out exactly if there is no entry with two fields `name`. -/
theorem Gathers.forall₂_shows_iff {items : List Value} {names : List String}
    (h : Gathers items names) :
    List.Forall₂ Value.Shows items names ↔ ∀ item ∈ items, ¬ item.NamesTwice := by
  constructor
  · intro hshows
    clear h
    induction hshows with
    | nil => exact fun _ hmem => absurd hmem List.not_mem_nil
    | cons hshow _ ih =>
        intro item hmem htwice
        rcases List.mem_cons.mp hmem with rfl | hmem
        · exact htwice.not_shows _ hshow
        · exact ih item hmem htwice
  · intro hnone
    induction h with
    | nil => exact .nil
    | shown hshows _ ih =>
        exact .cons hshows (ih fun item hmem => hnone item (List.mem_cons_of_mem _ hmem))
    | lost htwice _ _ => exact absurd htwice (hnone _ List.mem_cons_self)

/-! ## Import types -/

/-- Imports that keep the rules have lists of entries, and what they import is what these show. -/
theorem exists_lists {directives : List Directive}
    (h : ∀ directive ∈ directives, directive.name.text = "import" ∧ ImportRules directive) :
    ∃ lists, List.Forall₂ Directive.Lists directives lists
      ∧ (∀ item ∈ lists.flatten, item.IsImportEntry)
      ∧ directives.flatMap Directive.importedNames = lists.flatten.filterMap visibleName? := by
  induction directives with
  | nil => exact ⟨[], .nil, fun _ hmem => absurd hmem List.not_mem_nil, rfl⟩
  | cons directive rest ih =>
      obtain ⟨himport, hrules⟩ := h directive List.mem_cons_self
      obtain ⟨items, hitems, hentries⟩ := hrules.types
      obtain ⟨lists, hlists, hlistsEntries, hnames⟩ :=
        ih fun other hother => h other (List.mem_cons_of_mem _ hother)
      refine ⟨items :: lists, .cons hitems hlists, ?_, ?_⟩
      · intro item hmem
        rcases List.mem_append.mp hmem with hmem | hmem
        · exact hentries item hmem
        · exact hlistsEntries item hmem
      · rw [List.flatMap_cons, hnames, importedNames_of_lists himport hitems, List.flatten_cons,
          List.filterMap_append]

theorem importedNames_importType {type : TypeDefinition} (h : type.IsImportType) :
    importedNames [.type type] = type.directives.flatMap Directive.importedNames := by
  have hfilter : (typeDefinitions [.type type]).filter (·.isImportType) = [type] :=
    List.filter_eq_self.mpr fun other hmem =>
      List.mem_singleton.mp hmem ▸ TypeDefinition.isImportType_iff.mpr h
  rw [importedNames, hfilter, List.flatMap_singleton]

/-- **What an accepted import type imports.**  Each of its directives has a list of entries.  Of
these together, each shows one of the imported names, in order, but for those with two fields
`name`, which show none.  So no entry is lost exactly if there are none of these. -/
theorem gathers_importedNames {type : TypeDefinition} (htype : type.IsImportType)
    (hclean : checkImportType type.declaration = []) :
    ∃ lists, List.Forall₂ Directive.Lists type.directives lists
      ∧ Gathers lists.flatten (importedNames [.type type])
      ∧ (List.Forall₂ Value.Shows lists.flatten (importedNames [.type type])
          ↔ ∀ item ∈ lists.flatten, ¬ item.NamesTwice) := by
  obtain ⟨lists, hlists, hentries, hnames⟩ :=
    exists_lists (checkImportType_eq_nil_iff.mp hclean).directives
  have hnames' : importedNames [.type type] = lists.flatten.filterMap visibleName? :=
    (importedNames_importType htype).trans hnames
  have hgathers : Gathers lists.flatten (importedNames [.type type]) :=
    hnames' ▸ gathers_filterMap hentries
  exact ⟨lists, hlists, hgathers, hgathers.forall₂_shows_iff⟩

/-! ## Small imports -/

section Imports

open Bare

/-- An import type with one import, of the given entries. -/
def importing (items : List Value) : TypeDefinition :=
  importType [directive "import" [("types", list items), ("from", object [("name", string "dex")])]]

def aliased : Value := object [("name", string "Pool"), ("as", string "DexPool")]

def namedTwice : Value := object [("name", string "Pool"), ("name", string "Token")]

end Imports

theorem lists_importing {items : List Value} {lists : List (List Value)}
    (h : List.Forall₂ Directive.Lists (importing items).directives lists) : lists = [items] := by
  cases h with
  | cons hitems hrest =>
      cases hrest with
      | nil =>
          obtain ⟨argument, span, hfirst, hvalue⟩ := hitems
          cases First.unique hfirst (.here rfl)
          cases hvalue
          rfl

theorem gathers_aliased :
    checkImportType (importing [Bare.string "Account", aliased]).declaration = []
      ∧ List.Forall₂ Value.Shows [Bare.string "Account", aliased] ["Account", "DexPool"] := by
  have hclean : checkImportType (importing [Bare.string "Account", aliased]).declaration = [] := by
    decide
  obtain ⟨lists, hlists, _, hshows⟩ := gathers_importedNames ⟨⟨_, _, rfl⟩, rfl⟩ hclean
  cases lists_importing hlists
  refine ⟨hclean, hshows.mpr fun item hmem htwice => ?_⟩
  rcases List.mem_cons.mp hmem with rfl | hmem
  · cases htwice
  · cases List.mem_singleton.mp hmem
    cases htwice with
    | object _ hright => exact absurd hright (by decide)

/-- An entry with two fields `name` is accepted and lost. -/
theorem not_forall_shows :
    ¬ ∀ type : TypeDefinition, type.IsImportType → checkImportType type.declaration = [] →
      ∃ lists, List.Forall₂ Directive.Lists type.directives lists
        ∧ List.Forall₂ Value.Shows lists.flatten (importedNames [.type type]) := by
  intro h
  obtain ⟨lists, hlists, hshows⟩ := h (importing [namedTwice]) ⟨⟨_, _, rfl⟩, rfl⟩ (by decide)
  cases lists_importing hlists
  have hnone : importedNames [.type (importing [namedTwice])] = [] := by decide
  rw [hnone] at hshows
  cases hshows

end EntitySchema
