/-
# `EntitySchema.Document.Parser.Value` — types, values and directives

What may stand on every part of a document: type expressions, values, and directives with their
arguments.  Values in a type system are constant: no variable may stand in them.
-/
import EntitySchema.Document.Parser.Basic

namespace EntitySchema.Parser

/-! ## Types -/

/-- Reads a reference to a type. -/
def namedType : Parser NamedType := do
  let start ← offset
  let name ← name
  return ⟨← spanFrom start, name⟩

/-- Reads a type expression, with a bound for its nesting. -/
def typeExprWithin : Nat → Parser TypeExpr
  | 0 => unexpected
  | n + 1 => do
      let start ← offset
      let type ←
        if ← accept .bracketOpen then
          let element ← typeExprWithin n
          discard (expect .bracketClose)
          pure (.list (← spanFrom start) element)
        else
          pure (.named (← namedType))
      if ← accept .bang then return .nonNull (← spanFrom start) type else return type

/-- Reads a type expression. -/
def typeExpr : Parser TypeExpr := do typeExprWithin (← bound)

/-! ## Values -/

/-- Whether a lexeme is a string, in quotes or as a block. -/
def isStringLexeme : Lexeme → Bool
  | .string _ | .blockString _ => true
  | _ => false

/-- Reads a string. -/
def stringLiteral : Parser StringLiteral := do
  let token ← current
  match token.lexeme with
  | .string text =>
      discard advance
      return ⟨some token.span, text, false⟩
  | .blockString text =>
      discard advance
      return ⟨some token.span, text, true⟩
  | _ => unexpected

/-- Reads a variable; where a value has to be constant, this is a fault. -/
def variableName (constant : Bool) : Parser Name := do
  let dollar ← expect .dollar
  if constant then
    match (← current).lexeme with
    | .name text => fail dollar.span.start (.variableInConstant text)
    | _ => unexpectedToken dollar
  else name

/-- The value that a name stands for. -/
def namedValue (span : Option Span) (text : String) : Value :=
  if text = "true" then .boolean span true
  else if text = "false" then .boolean span false
  else if text = "null" then .null span
  else .enum span text

/-- Reads a field of an object literal, given the reader of its value. -/
def objectField (value : Parser Value) : Parser ObjectField := do
  let start ← offset
  let name ← name
  discard (expect .colon)
  let value ← value
  return .mk (← spanFrom start) name value

/-- Reads a value, with a bound for its nesting. -/
def valueWithin (constant : Bool) : Nat → Parser Value
  | 0 => unexpected
  | n + 1 => do
      let token ← current
      let start := token.span.start
      match token.lexeme with
      | .punctuator .bracketOpen =>
          let items ← any .bracketOpen .bracketClose (valueWithin constant n)
          return .list (← spanFrom start) items
      | .punctuator .braceOpen =>
          let fields ← any .braceOpen .braceClose (objectField (valueWithin constant n))
          return .object (← spanFrom start) fields
      | .punctuator .dollar =>
          let name ← variableName constant
          return .variable (← spanFrom start) name
      | .int digits =>
          discard advance
          return .int (some token.span) digits
      | .float digits =>
          discard advance
          return .float (some token.span) digits
      | .name text =>
          discard advance
          return namedValue (some token.span) text
      | .string _ | .blockString _ => return .string (← stringLiteral)
      | .punctuator _ | .endOfText => unexpected

/-- Reads a value. -/
def value (constant : Bool) : Parser Value := do valueWithin constant (← bound)

/-! ## Directives -/

/-- Reads an argument. -/
def argument (constant : Bool) : Parser Argument := do
  let start ← offset
  let name ← name
  discard (expect .colon)
  let value ← value constant
  return ⟨← spanFrom start, name, value⟩

/-- Reads arguments in parentheses, if there are any. -/
def arguments (constant : Bool) : Parser (List Argument) :=
  optionalMany .parenOpen .parenClose (argument constant)

/-- Reads a directive. -/
def directive (constant : Bool) : Parser Directive := do
  let start ← offset
  discard (expect .at)
  let name ← name
  let arguments ← arguments constant
  return ⟨← spanFrom start, name, arguments⟩

/-- Reads directives as long as there are some, with a bound for their number. -/
def directivesWithin (constant : Bool) : Nat → Parser (List Directive)
  | 0 => unexpected
  | n + 1 => do
      if ← sees .at then
        let first ← directive constant
        let more ← directivesWithin constant n
        return first :: more
      else return []

/-- Reads the directives that come next. -/
def directives (constant : Bool) : Parser (List Directive) := do
  directivesWithin constant (← bound)

/-! ## Descriptions -/

/-- Whether a description comes next. -/
def seesDescription : Parser Bool := do return isStringLexeme (← current).lexeme

/-- Reads a description, if there is one. -/
def description : Parser (Option StringLiteral) := do
  if ← seesDescription then return some (← stringLiteral) else return none

end EntitySchema.Parser
