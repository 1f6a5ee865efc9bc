/-
# `EntitySchema.Document.Basic` — the syntax tree of a GraphQL document

A document is a list of items.  Most items are definitions of a type system: the schema's root
types, types, extensions of these, directives.  The others are executable: operations and
fragments, whose selections are checked when they are read but not kept, as nothing looks at them.

Every node carries the span it was read from, or none in a tree without positions.

A type definition and an extension of a type have the same shape, `TypeDefinition`, and so have
the root types of a schema and an extension of these.
-/
import EntitySchema.Text.Lines

namespace EntitySchema

/-- A name as it stands in the text. -/
structure Name where
  span : Option Span
  text : String

/-- A type referred to by its name. -/
structure NamedType where
  span : Option Span
  name : Name

/-- The type of a field or of an argument. -/
inductive TypeExpr where
  | named (type : NamedType)
  | list (span : Option Span) (element : TypeExpr)
  | nonNull (span : Option Span) (inner : TypeExpr)

/-- A string literal with its decoded text, written in quotes or as a block. -/
structure StringLiteral where
  span : Option Span
  text : String
  block : Bool

mutual

/-- The value of an argument. -/
inductive Value where
  | variable (span : Option Span) (name : Name)
  | string (literal : StringLiteral)
  | int (span : Option Span) (digits : String)
  | float (span : Option Span) (digits : String)
  | boolean (span : Option Span) (value : Bool)
  | null (span : Option Span)
  | enum (span : Option Span) (symbol : String)
  | list (span : Option Span) (items : List Value)
  | object (span : Option Span) (fields : List ObjectField)

/-- A field of an object literal. -/
inductive ObjectField where
  | mk (span : Option Span) (name : Name) (value : Value)

end

namespace ObjectField

/-- The span of the whole field. -/
def span : ObjectField → Option Span
  | .mk span _ _ => span

/-- The name of the field. -/
def name : ObjectField → Name
  | .mk _ name _ => name

/-- The value of the field. -/
def value : ObjectField → Value
  | .mk _ _ value => value

end ObjectField

/-- The span of a value. -/
def Value.span : Value → Option Span
  | .string literal => literal.span
  | .variable span _ | .int span _ | .float span _ | .boolean span _ | .null span
  | .enum span _ | .list span _ | .object span _ => span

/-- An argument of a directive. -/
structure Argument where
  span : Option Span
  name : Name
  value : Value

/-- A directive put on a definition or on a part of it. -/
structure Directive where
  span : Option Span
  name : Name
  arguments : List Argument

/-- An argument that a field or a directive takes, or a field of an input object. -/
structure InputValue where
  span : Option Span
  description : Option StringLiteral
  name : Name
  type : TypeExpr
  default : Option Value
  directives : List Directive

/-- A field of an object type or of an interface. -/
structure Field where
  span : Option Span
  description : Option StringLiteral
  name : Name
  arguments : List InputValue
  type : TypeExpr
  directives : List Directive

/-- A value of an enumeration. -/
structure EnumValue where
  span : Option Span
  description : Option StringLiteral
  name : Name
  directives : List Directive

/-- What a definition or an extension says about a type, by the kind of the type. -/
inductive TypeBody where
  | scalar
  | object (interfaces : List NamedType) (fields : List Field)
  | interface (interfaces : List NamedType) (fields : List Field)
  | union (members : List NamedType)
  | enum (values : List EnumValue)
  | inputObject (fields : List InputValue)

/-- A definition of a type, or an extension of one, which has no description. -/
structure TypeDefinition where
  span : Option Span
  description : Option StringLiteral
  name : Name
  directives : List Directive
  body : TypeBody

/-- The kinds of operation. -/
inductive OperationKind where
  | query
  | mutation
  | subscription
  deriving DecidableEq

/-- The type at the root of a kind of operation. -/
structure RootType where
  span : Option Span
  operation : OperationKind
  type : NamedType

/-- The root types of a schema, or an extension of them, which has no description. -/
structure SchemaDefinition where
  span : Option Span
  description : Option StringLiteral
  directives : List Directive
  rootTypes : List RootType

/-- A definition of a directive. -/
structure DirectiveDefinition where
  span : Option Span
  description : Option StringLiteral
  name : Name
  arguments : List InputValue
  directives : List Directive
  repeatable : Bool
  locations : List Name

/-- A definition of a type system. -/
inductive Definition where
  | type (definition : TypeDefinition)
  | typeExtension (extension : TypeDefinition)
  | schema (definition : SchemaDefinition)
  | schemaExtension (extension : SchemaDefinition)
  | directive (definition : DirectiveDefinition)

/-- The kinds of executable definition. -/
inductive ExecutableKind where
  | operation
  | fragment
  deriving DecidableEq

/-- An operation or a fragment, without its selections. -/
structure Executable where
  span : Option Span
  kind : ExecutableKind
  description : Option StringLiteral
  name : Option Name
  directives : List Directive

/-- What a document is made of. -/
inductive Item where
  | definition (definition : Definition)
  | executable (executable : Executable)

/-- The definition that an item is, unless it is executable. -/
def Item.definition? : Item → Option Definition
  | .definition d => some d
  | .executable _ => none

/-- The executable that an item is, unless it is a definition. -/
def Item.executable? : Item → Option Executable
  | .definition _ => none
  | .executable e => some e

/-- A document: its items in the order of the text. -/
structure Document where
  items : List Item

namespace Document

/-- The definitions among the items. -/
def definitions (document : Document) : List Definition :=
  document.items.filterMap Item.definition?

/-- The executables among the items. -/
def executables (document : Document) : List Executable :=
  document.items.filterMap Item.executable?

end Document

/-! ## What the rules look at

A rule about a definition looks at its name, its directives and its fields.  A `Declaration`
gives these for everything that has a name. -/

/-- The name, the directives and the fields of something that is declared. -/
structure Declaration where
  span : Option Span
  name : Name
  directives : List Directive
  fields : List Field

/-- A field of an input object as a field: it takes no arguments. -/
def InputValue.toField (input : InputValue) : Field :=
  ⟨input.span, input.description, input.name, [], input.type, input.directives⟩

/-- The fields of a type; a kind of type without fields has none. -/
def TypeBody.fields : TypeBody → List Field
  | .object _ fields | .interface _ fields => fields
  | .inputObject fields => fields.map InputValue.toField
  | .scalar | .union _ | .enum _ => []

namespace TypeDefinition

/-- The fields of the type. -/
def fields (type : TypeDefinition) : List Field := type.body.fields

/-- What the rules look at in a type. -/
def declaration (type : TypeDefinition) : Declaration :=
  ⟨type.span, type.name, type.directives, type.fields⟩

end TypeDefinition

/-- What the rules look at in a definition; nothing if it has no name. -/
def Definition.declaration? : Definition → Option Declaration
  | .type t | .typeExtension t => some t.declaration
  | .directive d => some ⟨d.span, d.name, d.directives, []⟩
  | .schema _ | .schemaExtension _ => none

/-- What the rules look at in an executable; nothing if it has no name. -/
def Executable.declaration? (e : Executable) : Option Declaration :=
  e.name.map fun name => ⟨e.span, name, e.directives, []⟩

/-- What the rules look at in an item; nothing if it has no name. -/
def Item.declaration? : Item → Option Declaration
  | .definition d => d.declaration?
  | .executable e => e.declaration?

/-- The span of a definition. -/
def Definition.span : Definition → Option Span
  | .type t | .typeExtension t => t.span
  | .schema s | .schemaExtension s => s.span
  | .directive d => d.span

/-- The directives put on a definition. -/
def Definition.directives : Definition → List Directive
  | .type t | .typeExtension t => t.directives
  | .schema s | .schemaExtension s => s.directives
  | .directive d => d.directives

/-- The span of an item. -/
def Item.span : Item → Option Span
  | .definition d => d.span
  | .executable e => e.span

/-- The directives put on an item. -/
def Item.directives : Item → List Directive
  | .definition d => d.directives
  | .executable e => e.directives

/-! ## Parts by name

Names may repeat in a list of fields, directives or arguments; the first part with a name is the one
that counts. -/

/-- The first field with a name. -/
def Field.find? (fields : List Field) (name : String) : Option Field :=
  fields.find? (·.name.text == name)

/-- The first directive with a name. -/
def Directive.find? (directives : List Directive) (name : String) : Option Directive :=
  directives.find? (·.name.text == name)

/-- Whether a directive with a name is there. -/
def Directive.has (directives : List Directive) (name : String) : Bool :=
  (Directive.find? directives name).isSome

/-- The first argument with a name. -/
def Argument.find? (arguments : List Argument) (name : String) : Option Argument :=
  arguments.find? (·.name.text == name)

/-- The first field of an object literal with a name. -/
def ObjectField.find? (fields : List ObjectField) (name : String) : Option ObjectField :=
  fields.find? (·.name.text == name)

end EntitySchema
