/-
# `EntitySchema.Document.Parser.TypeSystem` — definitions of a type system

A definition of a type and an extension of one are read alike from the name of the type on.  They
differ in front of it, where a definition may have a description, and in that an extension has to
say something.
-/
import EntitySchema.Document.Parser.Value

namespace EntitySchema.Parser

/-! ## Parts of types -/

/-- Reads an argument that a field takes, or a field of an input object. -/
def inputValue : Parser InputValue := do
  let start ← offset
  let description ← description
  let name ← name
  discard (expect .colon)
  let type ← typeExpr
  let default ← if ← accept .equals then some <$> value true else pure none
  let directives ← directives true
  return { span := ← spanFrom start, description, name, type, default, directives }

/-- Reads the arguments that a field or a directive takes, if there are any. -/
def inputArguments : Parser (List InputValue) := optionalMany .parenOpen .parenClose inputValue

/-- Reads a field. -/
def field : Parser Field := do
  let start ← offset
  let description ← description
  let name ← name
  let arguments ← inputArguments
  discard (expect .colon)
  let type ← typeExpr
  let directives ← directives true
  return { span := ← spanFrom start, description, name, arguments, type, directives }

/-- The names that a value of an enumeration must not have. -/
def reservedEnumNames : List String := ["true", "false", "null"]

/-- Reads a value of an enumeration. -/
def enumValue : Parser EnumValue := do
  let start ← offset
  let description ← description
  let token ← current
  if token.lexeme.value?.any reservedEnumNames.contains then
    fail token.span.start (.reservedEnumValue token.lexeme)
  let name ← name
  let directives ← directives true
  return { span := ← spanFrom start, description, name, directives }

/-- Reads the interfaces that a type implements, if there are any. -/
def interfaces : Parser (List NamedType) := do
  if ← acceptKeyword "implements" then separated .ampersand namedType else return []

/-- Reads the fields of a type, if there are any. -/
def fields : Parser (List Field) := optionalMany .braceOpen .braceClose field

/-- Reads the members of a union, if there are any. -/
def members : Parser (List NamedType) := do
  if ← accept .equals then separated .pipe namedType else return []

/-! ## Types -/

/-- What is read of a type after its name: by the keyword of its kind, its directives and its
body. -/
def typeBody? : String → Option (Parser (List Directive × TypeBody))
  | "scalar" => some do return (← directives true, .scalar)
  | "type" => some do
      let interfaces ← interfaces
      let directives ← directives true
      return (directives, .object interfaces (← fields))
  | "interface" => some do
      let interfaces ← interfaces
      let directives ← directives true
      return (directives, .interface interfaces (← fields))
  | "union" => some do
      let directives ← directives true
      return (directives, .union (← members))
  | "enum" => some do
      let directives ← directives true
      return (directives, .enum (← optionalMany .braceOpen .braceClose enumValue))
  | "input" => some do
      let directives ← directives true
      return (directives, .inputObject (← optionalMany .braceOpen .braceClose inputValue))
  | _ => none

/-- Whether a body says nothing about its type. -/
def isEmptyBody : TypeBody → Bool
  | .scalar => true
  | .object interfaces fields | .interface interfaces fields =>
      interfaces.isEmpty && fields.isEmpty
  | .union members => members.isEmpty
  | .enum values => values.isEmpty
  | .inputObject fields => fields.isEmpty

/-- Reads a definition of a type, given its keyword and the reader of what comes after its name. -/
def typeDefinition (keyword : String) (body : Parser (List Directive × TypeBody)) :
    Parser TypeDefinition := do
  let start ← offset
  let description ← description
  expectKeyword keyword
  let name ← name
  let (directives, body) ← body
  return { span := ← spanFrom start, description, name, directives, body }

/-- Reads an extension of a type, given its keyword and the reader of what comes after its name. -/
def typeExtension (keyword : String) (body : Parser (List Directive × TypeBody)) :
    Parser TypeDefinition := do
  let start ← offset
  expectKeyword "extend"
  expectKeyword keyword
  let name ← name
  let (directives, body) ← body
  if directives.isEmpty && isEmptyBody body then unexpected
  return { span := ← spanFrom start, description := none, name, directives, body }

/-! ## Schemas -/

/-- The kind of operation that a word stands for. -/
def operationKind? : String → Option OperationKind
  | "query" => some .query
  | "mutation" => some .mutation
  | "subscription" => some .subscription
  | _ => none

/-- Reads a kind of operation. -/
def operationKind : Parser OperationKind := do
  let token ← current
  let word ← name
  match operationKind? word.text with
  | some kind => return kind
  | none => unexpectedToken token

/-- Reads a root type. -/
def rootType : Parser RootType := do
  let start ← offset
  let operation ← operationKind
  discard (expect .colon)
  let type ← namedType
  return { span := ← spanFrom start, operation, type }

/-- Reads the root types of a schema. -/
def schemaDefinition : Parser SchemaDefinition := do
  let start ← offset
  let description ← description
  expectKeyword "schema"
  let directives ← directives true
  let rootTypes ← many .braceOpen .braceClose rootType
  return { span := ← spanFrom start, description, directives, rootTypes }

/-- Reads an extension of the root types of a schema. -/
def schemaExtension : Parser SchemaDefinition := do
  let start ← offset
  expectKeyword "extend"
  expectKeyword "schema"
  let directives ← directives true
  let rootTypes ← optionalMany .braceOpen .braceClose rootType
  if directives.isEmpty && rootTypes.isEmpty then unexpected
  return { span := ← spanFrom start, description := none, directives, rootTypes }

/-! ## Directives -/

/-- The parts of documents that directives can be put on. -/
def directiveLocations : List String :=
  [ "QUERY", "MUTATION", "SUBSCRIPTION", "FIELD", "FRAGMENT_DEFINITION", "FRAGMENT_SPREAD",
    "INLINE_FRAGMENT", "VARIABLE_DEFINITION", "SCHEMA", "SCALAR", "OBJECT", "FIELD_DEFINITION",
    "ARGUMENT_DEFINITION", "INTERFACE", "UNION", "ENUM", "ENUM_VALUE", "INPUT_OBJECT",
    "INPUT_FIELD_DEFINITION" ]

/-- Reads a part of documents that a directive can be put on. -/
def directiveLocation : Parser Name := do
  let token ← current
  let name ← name
  if directiveLocations.contains name.text then return name else unexpectedToken token

/-- Reads a definition of a directive. -/
def directiveDefinition : Parser DirectiveDefinition := do
  let start ← offset
  let description ← description
  expectKeyword "directive"
  discard (expect .at)
  let name ← name
  let arguments ← inputArguments
  let directives ← directives true
  let repeatable ← acceptKeyword "repeatable"
  expectKeyword "on"
  let locations ← separated .pipe directiveLocation
  return { span := ← spanFrom start, description, name, arguments, directives, repeatable,
           locations }

/-! ## Definitions -/

/-- The reader of the definition that a keyword begins. -/
def definition? (keyword : String) : Option (Parser Definition) :=
  match typeBody? keyword with
  | some body => some (.type <$> typeDefinition keyword body)
  | none =>
      if keyword = "schema" then some (.schema <$> schemaDefinition)
      else if keyword = "directive" then some (.directive <$> directiveDefinition)
      else none

/-- Reads an extension. -/
def extension : Parser Definition := do
  let token ← lookahead
  match token.lexeme with
  | .name keyword =>
      match typeBody? keyword with
      | some body => .typeExtension <$> typeExtension keyword body
      | none =>
          if keyword = "schema" then .schemaExtension <$> schemaExtension
          else unexpectedToken token
  | _ => unexpectedToken token

end EntitySchema.Parser
