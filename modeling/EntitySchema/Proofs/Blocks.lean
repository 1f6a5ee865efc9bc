/-
# `EntitySchema.Proofs.Blocks` — what is found, definition by definition

The findings about a schema come in blocks, one for each definition in the order of the schema, and
one for the names at the end.  A check of a definition may look far: a back-reference is followed to
other types.  But whatever is found is placed at a node of the definition that is checked, never at
one that was met on the way (`TypeFault.layout_has`).  So if the definitions lie one after the other
in the text, as they do when they are read from it, the blocks are in the order of the text; and no
finding in them is at the placeholder, which is the place of all findings about names.
-/
import EntitySchema.Proofs.Faults
import EntitySchema.Proofs.Layout
import EntitySchema.Schema

namespace EntitySchema

variable {definitions : List Definition} {owner : Declaration} {field : Field}
  {type : TypeDefinition} {span : Option Span} {issue : Issue}

/-! ## The place of a finding -/

theorem FieldFault.layout_has {origin : String}
    (h : FieldFault definitions origin field span issue) : field.layout.Has span := by
  cases h with
  | elements _ _ => exact .root
  | unknown _ => exact .root
  | arguments _ => exact .root
  | backReference hdirective _ _ => exact Field.layout_has_directive hdirective

theorem ImportSourceFault.layout_has {directive : Directive} {name : String}
    (h : ImportSourceFault directive (Argument.find? directive.arguments name) span issue) :
    directive.layout.Has span := by
  generalize hfind : Argument.find? directive.arguments name = found at h
  cases h with
  | missing => exact Directive.layout_has_name
  | value _ => exact Directive.layout_has_name
  | size _ _ => exact Directive.layout_has_name
  | field hvalue _ =>
      have hargument := First.mem (Argument.find?_eq_some_iff.mp hfind)
      exact Directive.layout_has_objectField hargument hvalue List.mem_cons_self

/-- What is found in a type is placed at one of its nodes. -/
theorem TypeFault.layout_has (h : TypeFault definitions type span issue) :
    type.layout.Has span := by
  cases h with
  | entity hobject _ hfault =>
      cases hfault with
      | noEntity _ => exact .root
      | noId _ => exact .root
      | idType hfirst _ => exact TypeDefinition.layout_has_field hobject (First.mem hfirst) .root
      | field hfield hfault =>
          exact TypeDefinition.layout_has_field hobject hfield hfault.layout_has
      | imports _ _ => exact TypeDefinition.layout_has_name
  | importType _ hfault =>
      cases hfault with
      | fields _ => exact TypeDefinition.layout_has_name
      | directive hdirective _ =>
          exact TypeDefinition.layout_has_directive hdirective Directive.layout_has_name
      | types hdirective _ _ =>
          exact TypeDefinition.layout_has_directive hdirective Directive.layout_has_name
      | source hdirective _ hsource =>
          exact TypeDefinition.layout_has_directive hdirective hsource.layout_has

/-! ## The blocks -/

/-- The definitions lie one after the other, and each is nested in its span. -/
structure InTextOrder (definitions : List Definition) : Prop where
  nested : ∀ definition ∈ definitions, ∃ span ∈ definition.span, definition.layout.Nested span
  ordered : definitions.Pairwise fun earlier later =>
    ∀ span ∈ earlier.span, ∀ span' ∈ later.span, span.stop ≤ span'.start

/-- What is found in a definition that is nested in its span lies in this span. -/
theorem checkDefinition_place {definition : Definition} {outer : Span} {finding : Finding}
    (hnested : definition.layout.Nested outer)
    (hfound : finding ∈ checkDefinition definitions definition) :
    definition.declaration?.map (·.name.text) = some finding.entity
      ∧ finding.location.start < finding.location.stop ∧ finding.location.Within outer := by
  obtain ⟨type, rfl, place, issue, hfault, rfl⟩ := mem_checkDefinition_iff.mp hfound
  obtain ⟨span, rfl, hproper, hwithin⟩ := hnested.has hfault.layout_has
  exact ⟨rfl, hproper, hwithin⟩

/-- **Findings come in blocks, in the order of the text.**  If the definitions lie in the text one
after the other, then so do their blocks.  What is found in a definition bears its name, and lies
inside it.  The findings about names come last, and they are the ones at the placeholder: each is
about a name that the schema declares or imports. -/
theorem validate_blocks (h : InTextOrder definitions) :
    validate definitions
        = (definitions.map (checkDefinition definitions)).flatten ++ checkNames definitions
      ∧ (∀ definition ∈ definitions, ∀ finding ∈ checkDefinition definitions definition,
          definition.declaration?.map (·.name.text) = some finding.entity
            ∧ (∃ span ∈ definition.span, finding.location.Within span)
            ∧ finding.location ≠ Span.placeholder)
      ∧ (definitions.map (checkDefinition definitions)).Pairwise (fun earlier later =>
          ∀ finding ∈ earlier, ∀ finding' ∈ later,
            finding.location.stop ≤ finding'.location.start)
      ∧ ∀ finding ∈ checkNames definitions,
          finding.location = Span.placeholder ∧ finding.entity ∈ gatheredNames definitions := by
  refine ⟨?blocks, ?places, ?order, ?names⟩
  case blocks => rw [validate, List.flatMap_def]
  case places =>
    intro definition hmem finding hfound
    obtain ⟨span, hspan, hnested⟩ := h.nested definition hmem
    obtain ⟨hentity, hproper, hwithin⟩ := checkDefinition_place hnested hfound
    exact ⟨hentity, ⟨span, hspan, hwithin⟩, Span.ne_placeholder hproper⟩
  case order =>
    refine List.pairwise_map.mpr (h.ordered.imp_of_mem ?_)
    intro earlier later hearlier hlater hordered finding hfinding finding' hfinding'
    obtain ⟨span, hspan, hnested⟩ := h.nested earlier hearlier
    obtain ⟨span', hspan', hnested'⟩ := h.nested later hlater
    obtain ⟨_, _, hwithin⟩ := checkDefinition_place hnested hfinding
    obtain ⟨_, _, hwithin'⟩ := checkDefinition_place hnested' hfinding'
    calc finding.location.stop
      _ ≤ span.stop := hwithin.stop_le
      _ ≤ span'.start := hordered span hspan span' hspan'
      _ ≤ finding'.location.start := hwithin'.start_le
  case names =>
    intro finding hfound
    rw [checkNames_eq_map] at hfound
    obtain ⟨name, hname, rfl⟩ := List.mem_map.mp hfound
    exact ⟨rfl, (mem_repeatedNames.mp hname).mem⟩

/-- A schema as it is read from a text, with something to find in three blocks of four. -/
def fourBlocks : List Definition :=
  match Schema.parse
    "type Pool @entity \x7b id: ID! rows: [Row] \x7d
     enum Pool \x7b A \x7d
     type _Schema_ @import(types: [\"Token\"], from: \x7b file: \"token\" \x7d)".toList with
  | .ok definitions => definitions
  | .error _ => []

theorem validate_blocks_fourBlocks :
    InTextOrder fourBlocks
      ∧ (fourBlocks.map fun definition => (checkDefinition fourBlocks definition).length)
        = [2, 0, 1]
      ∧ (fourBlocks.map (checkDefinition fourBlocks)).Pairwise (fun earlier later =>
          ∀ finding ∈ earlier, ∀ finding' ∈ later,
            finding.location.stop ≤ finding'.location.start) := by
  obtain ⟨hnested, hordered, hlengths⟩ :
      (∀ definition ∈ fourBlocks, ∃ span ∈ definition.span, definition.layout.Nested span)
        ∧ (fourBlocks.Pairwise fun earlier later =>
          ∀ span ∈ earlier.span, ∀ span' ∈ later.span, span.stop ≤ span'.start)
        ∧ (fourBlocks.map fun definition => (checkDefinition fourBlocks definition).length)
          = [2, 0, 1] := by
    decide +kernel
  have hplaced : InTextOrder fourBlocks := ⟨hnested, hordered⟩
  obtain ⟨_, _, hblocks, _⟩ := validate_blocks hplaced
  exact ⟨hplaced, hlengths, hblocks⟩

end EntitySchema
