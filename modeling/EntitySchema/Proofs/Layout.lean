/-
# `EntitySchema.Proofs.Layout` — how the nodes of a tree lie in the text

In a tree as it is read from a text, every node has a span, which is not empty and lies inside the
span of the node it is part of.  The layout of a tree keeps its spans and leaves out the rest, so
this is said once for nodes of all kinds: a layout is `Nested` inside a span.  Every node of such a
layout has a span inside the outer one (`Layout.Nested.has`); so it is enough to know that a place
is one of the nodes of a definition, and the lemmas on `Has` tell this part by part.
-/
import EntitySchema.Proofs.Names

namespace EntitySchema

namespace Span

/-- `inner.Within outer`: no offset of the inner span is outside the outer one. -/
structure Within (inner outer : Span) : Prop where
  start_le : outer.start ≤ inner.start
  stop_le : inner.stop ≤ outer.stop

theorem Within.trans {inner middle outer : Span} (h : inner.Within middle)
    (h' : middle.Within outer) : inner.Within outer :=
  ⟨Nat.le_trans h'.start_le h.start_le, Nat.le_trans h.stop_le h'.stop_le⟩

theorem within_iff {inner outer : Span} :
    inner.Within outer ↔ outer.start ≤ inner.start ∧ inner.stop ≤ outer.stop :=
  ⟨fun h => ⟨h.start_le, h.stop_le⟩, fun h => ⟨h.1, h.2⟩⟩

instance (inner outer : Span) : Decidable (inner.Within outer) :=
  decidable_of_iff _ within_iff.symm

/-- The placeholder is empty. -/
theorem ne_placeholder {span : Span} (h : span.start < span.stop) : span ≠ placeholder := by
  rintro rfl
  exact absurd h (by decide)

end Span

/-- The spans of a tree: that of its root, and the layouts of the parts. -/
inductive Layout where
  | node (span : Option Span) (parts : List Layout)

namespace Layout

/-! ## Nested layouts -/

/-- `layout.Has span`: this is the span of a node, or the node has none. -/
inductive Has : Layout → Option Span → Prop
  | root {span : Option Span} {parts : List Layout} : Has (.node span parts) span
  | part {span place : Option Span} {parts : List Layout} {part : Layout} :
      part ∈ parts → Has part place → Has (.node span parts) place

/-- `layout.Nested outer`: every node has a span that is not empty and lies inside that of its
parent, and the root lies inside `outer`. -/
inductive Nested : Layout → Span → Prop
  | node {outer span : Span} {parts : List Layout} :
      span.start < span.stop → span.Within outer → (∀ part ∈ parts, Nested part span) →
      Nested (.node (some span) parts) outer

/-- Every node of a nested layout lies inside the outer span. -/
theorem Nested.has {layout : Layout} {outer : Span} {place : Option Span}
    (hnested : layout.Nested outer) (hplace : layout.Has place) :
    ∃ span, place = some span ∧ span.start < span.stop ∧ span.Within outer := by
  induction hplace generalizing outer with
  | root =>
      cases hnested with
      | node hproper hwithin _ => exact ⟨_, rfl, hproper, hwithin⟩
  | part hpart _ ih =>
      cases hnested with
      | node _ hwithin hparts =>
          obtain ⟨span, hspan, hproper, hinner⟩ := ih (hparts _ hpart)
          exact ⟨span, hspan, hproper, hinner.trans hwithin⟩

mutual

/-- Whether a layout is nested inside a span. -/
def nestedIn (outer : Span) : Layout → Bool
  | .node none _ => false
  | .node (some span) parts =>
      decide (span.start < span.stop) && decide (span.Within outer) && allNestedIn span parts

/-- Whether all layouts are nested inside a span. -/
def allNestedIn (outer : Span) : List Layout → Bool
  | [] => true
  | layout :: rest => nestedIn outer layout && allNestedIn outer rest

end

mutual

theorem nestedIn_iff {outer : Span} : ∀ {layout : Layout},
    layout.nestedIn outer = true ↔ layout.Nested outer
  | .node none _ => by
      constructor
      · intro h
        cases h
      · intro h
        cases h
  | .node (some span) parts => by
      rw [nestedIn, Bool.and_eq_true, Bool.and_eq_true, decide_eq_true_eq, decide_eq_true_eq,
        allNestedIn_iff]
      constructor
      · rintro ⟨⟨hproper, hwithin⟩, hparts⟩
        exact .node hproper hwithin hparts
      · intro h
        cases h with
        | node hproper hwithin hparts => exact ⟨⟨hproper, hwithin⟩, hparts⟩

theorem allNestedIn_iff {outer : Span} : ∀ {layouts : List Layout},
    allNestedIn outer layouts = true ↔ ∀ layout ∈ layouts, layout.Nested outer
  | [] => by simp only [allNestedIn, List.not_mem_nil, false_imp_iff, implies_true]
  | layout :: rest => by
      rw [allNestedIn, Bool.and_eq_true, nestedIn_iff, allNestedIn_iff, List.forall_mem_cons]

end

instance (outer : Span) (layout : Layout) : Decidable (layout.Nested outer) :=
  decidable_of_iff _ nestedIn_iff

end Layout

/-! ## Layouts of trees -/

/-- The layout of a name. -/
def Name.layout (name : Name) : Layout := .node name.span []

/-- The layout of a reference. -/
def NamedType.layout (type : NamedType) : Layout := .node type.span [type.name.layout]

/-- The layout of a type expression. -/
def TypeExpr.layout : TypeExpr → Layout
  | .named type => type.layout
  | .list span element => .node span [element.layout]
  | .nonNull span inner => .node span [inner.layout]

/-- The layout of a literal. -/
def StringLiteral.layout (literal : StringLiteral) : Layout := .node literal.span []

mutual

/-- The layout of a value. -/
def Value.layout : Value → Layout
  | .variable span name => .node span [name.layout]
  | .string literal => literal.layout
  | .int span _ | .float span _ | .boolean span _ | .null span | .enum span _ => .node span []
  | .list span items => .node span (Value.layouts items)
  | .object span fields => .node span (ObjectField.layouts fields)

/-- The layouts of values. -/
def Value.layouts : List Value → List Layout
  | [] => []
  | value :: rest => value.layout :: Value.layouts rest

/-- The layout of a field of an object literal. -/
def ObjectField.layout : ObjectField → Layout
  | .mk span name value => .node span [name.layout, value.layout]

/-- The layouts of the fields of an object literal. -/
def ObjectField.layouts : List ObjectField → List Layout
  | [] => []
  | field :: rest => field.layout :: ObjectField.layouts rest

end

/-- The layout of an argument. -/
def Argument.layout (argument : Argument) : Layout :=
  .node argument.span [argument.name.layout, argument.value.layout]

/-- The layout of a directive. -/
def Directive.layout (directive : Directive) : Layout :=
  .node directive.span (directive.name.layout :: directive.arguments.map (·.layout))

/-- The layout of an input value. -/
def InputValue.layout (input : InputValue) : Layout :=
  .node input.span
    (input.description.toList.map (·.layout) ++ [input.name.layout, input.type.layout]
      ++ input.default.toList.map (·.layout) ++ input.directives.map (·.layout))

/-- The layout of a field. -/
def Field.layout (field : Field) : Layout :=
  .node field.span
    (field.description.toList.map (·.layout) ++ [field.name.layout]
      ++ field.arguments.map (·.layout) ++ [field.type.layout]
      ++ field.directives.map (·.layout))

/-- The layout of a value of an enumeration. -/
def EnumValue.layout (value : EnumValue) : Layout :=
  .node value.span
    (value.description.toList.map (·.layout) ++ [value.name.layout]
      ++ value.directives.map (·.layout))

/-- The layouts of what the body of a type is made of. -/
def TypeBody.layouts : TypeBody → List Layout
  | .scalar => []
  | .object interfaces fields | .interface interfaces fields =>
      interfaces.map (·.layout) ++ fields.map (·.layout)
  | .union members => members.map (·.layout)
  | .enum values => values.map (·.layout)
  | .inputObject fields => fields.map (·.layout)

/-- The layout of a type. -/
def TypeDefinition.layout (type : TypeDefinition) : Layout :=
  .node type.span
    (type.description.toList.map (·.layout) ++ [type.name.layout]
      ++ type.directives.map (·.layout) ++ type.body.layouts)

/-- The layout of a root type. -/
def RootType.layout (root : RootType) : Layout := .node root.span [root.type.layout]

/-- The layout of the root types of a schema. -/
def SchemaDefinition.layout (schema : SchemaDefinition) : Layout :=
  .node schema.span
    (schema.description.toList.map (·.layout) ++ schema.directives.map (·.layout)
      ++ schema.rootTypes.map (·.layout))

/-- The layout of the definition of a directive. -/
def DirectiveDefinition.layout (directive : DirectiveDefinition) : Layout :=
  .node directive.span
    (directive.description.toList.map (·.layout) ++ [directive.name.layout]
      ++ directive.arguments.map (·.layout) ++ directive.directives.map (·.layout)
      ++ directive.locations.map (·.layout))

/-- The layout of a definition. -/
def Definition.layout : Definition → Layout
  | .type t | .typeExtension t => t.layout
  | .schema s | .schemaExtension s => s.layout
  | .directive d => d.layout

/-! ## Where the parts of a type lie -/

section Parts

variable {place : Option Span}

theorem Value.layouts_eq_map (values : List Value) :
    Value.layouts values = values.map (·.layout) := by
  induction values with
  | nil => rfl
  | cons value rest ih => rw [Value.layouts, List.map_cons, ih]

theorem ObjectField.layouts_eq_map (fields : List ObjectField) :
    ObjectField.layouts fields = fields.map (·.layout) := by
  induction fields with
  | nil => rfl
  | cons field rest ih => rw [ObjectField.layouts, List.map_cons, ih]

theorem Directive.layout_has_name {directive : Directive} :
    directive.layout.Has directive.name.span :=
  .part List.mem_cons_self .root

/-- The name of a field of an object literal that is an argument of a directive. -/
theorem Directive.layout_has_objectField {directive : Directive} {argument : Argument}
    {span : Option Span} {fields : List ObjectField} {field : ObjectField}
    (hargument : argument ∈ directive.arguments) (hvalue : argument.value = .object span fields)
    (hfield : field ∈ fields) : directive.layout.Has field.name.span := by
  have hname : field.layout.Has field.name.span := by
    cases field
    exact .part List.mem_cons_self .root
  have hlayouts : field.layout ∈ ObjectField.layouts fields := by
    rw [ObjectField.layouts_eq_map]
    exact List.mem_map_of_mem hfield
  have hobject : argument.value.layout.Has field.name.span := by
    rw [hvalue]
    exact .part hlayouts hname
  have hargumentHas : argument.layout.Has field.name.span :=
    .part (List.mem_cons_of_mem _ List.mem_cons_self) hobject
  exact .part (List.mem_cons_of_mem _ (List.mem_map_of_mem hargument)) hargumentHas

theorem Field.layout_has_directive {field : Field} {directive : Directive}
    (hdirective : directive ∈ field.directives) : field.layout.Has directive.span :=
  .part (List.mem_append_right _ (List.mem_map_of_mem hdirective)) .root

namespace TypeDefinition

variable {type : TypeDefinition}

theorem layout_has_name : type.layout.Has type.name.span :=
  .part (List.mem_append_left _ (List.mem_append_left _
    (List.mem_append_right _ List.mem_cons_self))) .root

theorem layout_has_directive {directive : Directive} (hdirective : directive ∈ type.directives)
    (hplace : directive.layout.Has place) : type.layout.Has place :=
  .part (List.mem_append_left _ (List.mem_append_right _ (List.mem_map_of_mem hdirective))) hplace

theorem layout_has_field {field : Field} (hobject : type.IsObject) (hfield : field ∈ type.fields)
    (hplace : field.layout.Has place) : type.layout.Has place := by
  obtain ⟨interfaces, fields, hbody⟩ := hobject
  rw [TypeDefinition.fields, hbody] at hfield
  have hpart : field.layout ∈ type.body.layouts := by
    rw [hbody]
    exact List.mem_append_right _ (List.mem_map_of_mem hfield)
  exact .part (List.mem_append_right _ hpart) hplace

end TypeDefinition

end Parts

end EntitySchema
