/-
# `EntitySchema.Document.TypeExpr` — type expressions

A type expression wraps a named type in lists and in non-null marks.  `innermost` strips the
wrappers, `render` writes the expression as it stands in a schema.  The grammar puts no non-null
mark right inside another; `IsGrammatical` says so, and that all names are names of the grammar.
-/
import EntitySchema.Document.Basic

namespace EntitySchema

/-- A character that may begin a name. -/
def isNameStart (c : Char) : Bool := c.isAlpha || c == '_'

/-- A character that may go on in a name. -/
def isNamePart (c : Char) : Bool := isNameStart c || c.isDigit

namespace TypeExpr

/-- The named type inside all wrappers. -/
def innermost : TypeExpr → NamedType
  | .named type => type
  | .list _ element => element.innermost
  | .nonNull _ inner => inner.innermost

/-- The name of the named type inside all wrappers. -/
def baseName (type : TypeExpr) : String := type.innermost.name.text

/-- The characters of `render`. -/
def renderChars : TypeExpr → List Char
  | .named type => type.name.text.toList
  | .list _ element => '[' :: element.renderChars ++ [']']
  | .nonNull _ inner => inner.renderChars ++ ['!']

/-- The expression as it is written in a schema, such as `[String!]!`. -/
def render (type : TypeExpr) : String := String.ofList type.renderChars

/-- Whether the outermost wrapper is a non-null mark. -/
def isNonNull : TypeExpr → Bool
  | .nonNull _ _ => true
  | .named _ | .list _ _ => false

/-- The expression without its outermost non-null mark, if it has one. -/
def dropNonNull : TypeExpr → TypeExpr
  | .nonNull _ inner => inner
  | type => type

/-- What the grammar allows: names made of name characters, and no non-null mark right inside
another. -/
def IsGrammatical : TypeExpr → Prop
  | .named type => type.name.text ≠ "" ∧ ∀ c ∈ type.name.text.toList, isNamePart c = true
  | .list _ element => element.IsGrammatical
  | .nonNull _ inner => inner.isNonNull = false ∧ inner.IsGrammatical

end TypeExpr

end EntitySchema
