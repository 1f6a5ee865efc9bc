/-
# `EntitySchema.Document.Spans` — changing the positions of a tree

`mapSpans g` applies `g` to the span of every node of a tree and leaves everything else as it is.
With the function that is always `none` it gives the tree as it is read without positions.
-/
import EntitySchema.Document.Basic

namespace EntitySchema

/-- A change of optional spans. -/
abbrev SpanMap := Option Span → Option Span

/-- The name with its span changed. -/
def Name.mapSpans (g : SpanMap) (name : Name) : Name := ⟨g name.span, name.text⟩

/-- The reference with its spans changed. -/
def NamedType.mapSpans (g : SpanMap) (type : NamedType) : NamedType :=
  ⟨g type.span, type.name.mapSpans g⟩

/-- The type expression with its spans changed. -/
def TypeExpr.mapSpans (g : SpanMap) : TypeExpr → TypeExpr
  | .named type => .named (type.mapSpans g)
  | .list span element => .list (g span) (element.mapSpans g)
  | .nonNull span inner => .nonNull (g span) (inner.mapSpans g)

/-- The literal with its span changed. -/
def StringLiteral.mapSpans (g : SpanMap) (literal : StringLiteral) : StringLiteral :=
  ⟨g literal.span, literal.text, literal.block⟩

mutual

/-- The value with its spans changed. -/
def Value.mapSpans (g : SpanMap) : Value → Value
  | .variable span name => .variable (g span) (name.mapSpans g)
  | .string literal => .string (literal.mapSpans g)
  | .int span digits => .int (g span) digits
  | .float span digits => .float (g span) digits
  | .boolean span value => .boolean (g span) value
  | .null span => .null (g span)
  | .enum span symbol => .enum (g span) symbol
  | .list span items => .list (g span) (Value.mapSpansList g items)
  | .object span fields => .object (g span) (ObjectField.mapSpansList g fields)

/-- The values with their spans changed. -/
def Value.mapSpansList (g : SpanMap) : List Value → List Value
  | [] => []
  | value :: rest => value.mapSpans g :: Value.mapSpansList g rest

/-- The field of an object literal with its spans changed. -/
def ObjectField.mapSpans (g : SpanMap) : ObjectField → ObjectField
  | .mk span name value => .mk (g span) (name.mapSpans g) (value.mapSpans g)

/-- The fields of an object literal with their spans changed. -/
def ObjectField.mapSpansList (g : SpanMap) : List ObjectField → List ObjectField
  | [] => []
  | field :: rest => field.mapSpans g :: ObjectField.mapSpansList g rest

end

/-- The argument with its spans changed. -/
def Argument.mapSpans (g : SpanMap) (argument : Argument) : Argument :=
  ⟨g argument.span, argument.name.mapSpans g, argument.value.mapSpans g⟩

/-- The directive with its spans changed. -/
def Directive.mapSpans (g : SpanMap) (directive : Directive) : Directive :=
  ⟨g directive.span, directive.name.mapSpans g, directive.arguments.map (·.mapSpans g)⟩

/-- The input value with its spans changed. -/
def InputValue.mapSpans (g : SpanMap) (input : InputValue) : InputValue :=
  { span := g input.span
    description := input.description.map (·.mapSpans g)
    name := input.name.mapSpans g
    type := input.type.mapSpans g
    default := input.default.map (·.mapSpans g)
    directives := input.directives.map (·.mapSpans g) }

/-- The field with its spans changed. -/
def Field.mapSpans (g : SpanMap) (field : Field) : Field :=
  { span := g field.span
    description := field.description.map (·.mapSpans g)
    name := field.name.mapSpans g
    arguments := field.arguments.map (·.mapSpans g)
    type := field.type.mapSpans g
    directives := field.directives.map (·.mapSpans g) }

/-- The value of an enumeration with its spans changed. -/
def EnumValue.mapSpans (g : SpanMap) (value : EnumValue) : EnumValue :=
  { span := g value.span
    description := value.description.map (·.mapSpans g)
    name := value.name.mapSpans g
    directives := value.directives.map (·.mapSpans g) }

/-- The body of a type with its spans changed. -/
def TypeBody.mapSpans (g : SpanMap) : TypeBody → TypeBody
  | .scalar => .scalar
  | .object interfaces fields =>
      .object (interfaces.map (·.mapSpans g)) (fields.map (·.mapSpans g))
  | .interface interfaces fields =>
      .interface (interfaces.map (·.mapSpans g)) (fields.map (·.mapSpans g))
  | .union members => .union (members.map (·.mapSpans g))
  | .enum values => .enum (values.map (·.mapSpans g))
  | .inputObject fields => .inputObject (fields.map (·.mapSpans g))

/-- The type with its spans changed. -/
def TypeDefinition.mapSpans (g : SpanMap) (type : TypeDefinition) : TypeDefinition :=
  { span := g type.span
    description := type.description.map (·.mapSpans g)
    name := type.name.mapSpans g
    directives := type.directives.map (·.mapSpans g)
    body := type.body.mapSpans g }

/-- The root type with its spans changed. -/
def RootType.mapSpans (g : SpanMap) (root : RootType) : RootType :=
  ⟨g root.span, root.operation, root.type.mapSpans g⟩

/-- The root types of a schema with their spans changed. -/
def SchemaDefinition.mapSpans (g : SpanMap) (schema : SchemaDefinition) : SchemaDefinition :=
  { span := g schema.span
    description := schema.description.map (·.mapSpans g)
    directives := schema.directives.map (·.mapSpans g)
    rootTypes := schema.rootTypes.map (·.mapSpans g) }

/-- The definition of a directive with its spans changed. -/
def DirectiveDefinition.mapSpans (g : SpanMap) (directive : DirectiveDefinition) :
    DirectiveDefinition :=
  { span := g directive.span
    description := directive.description.map (·.mapSpans g)
    name := directive.name.mapSpans g
    arguments := directive.arguments.map (·.mapSpans g)
    directives := directive.directives.map (·.mapSpans g)
    repeatable := directive.repeatable
    locations := directive.locations.map (·.mapSpans g) }

/-- The definition with its spans changed. -/
def Definition.mapSpans (g : SpanMap) : Definition → Definition
  | .type t => .type (t.mapSpans g)
  | .typeExtension t => .typeExtension (t.mapSpans g)
  | .schema s => .schema (s.mapSpans g)
  | .schemaExtension s => .schemaExtension (s.mapSpans g)
  | .directive d => .directive (d.mapSpans g)

/-- The executable with its spans changed. -/
def Executable.mapSpans (g : SpanMap) (e : Executable) : Executable :=
  { span := g e.span
    kind := e.kind
    description := e.description.map (·.mapSpans g)
    name := e.name.map (·.mapSpans g)
    directives := e.directives.map (·.mapSpans g) }

/-- The item with its spans changed. -/
def Item.mapSpans (g : SpanMap) : Item → Item
  | .definition d => .definition (d.mapSpans g)
  | .executable e => .executable (e.mapSpans g)

/-- The document with its spans changed. -/
def Document.mapSpans (g : SpanMap) (document : Document) : Document :=
  ⟨document.items.map (·.mapSpans g)⟩

/-- The document as it is read without positions. -/
def Document.withoutSpans (document : Document) : Document := document.mapSpans fun _ => none

end EntitySchema
