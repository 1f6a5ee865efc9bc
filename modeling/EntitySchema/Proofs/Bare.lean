/-
# `EntitySchema.Proofs.Bare` — small trees without positions

Trees for single schemas, put together by hand.  No node has a span, and all string literals are
written in quotes.
-/
import EntitySchema.Document.Basic

namespace EntitySchema.Bare

def name (text : String) : Name := ⟨none, text⟩

def named (text : String) : TypeExpr := .named ⟨none, name text⟩

def required (type : TypeExpr) : TypeExpr := .nonNull none type

def listOf (element : TypeExpr) : TypeExpr := .list none element

def string (text : String) : Value := .string ⟨none, text, false⟩

def list (items : List Value) : Value := .list none items

def object (fields : List (String × Value)) : Value :=
  .object none (fields.map fun field => .mk none (name field.1) field.2)

def directive (text : String) (arguments : List (String × Value)) : Directive :=
  ⟨none, name text, arguments.map fun argument => ⟨none, name argument.1, argument.2⟩⟩

def field (text : String) (type : TypeExpr) (directives : List Directive) : Field :=
  ⟨none, none, name text, [], type, directives⟩

/-- A back-reference to the field `source`. -/
def derivedFrom (source : String) : Directive := directive "derivedFrom" [("field", string source)]

/-- An entity with the field `id: ID!` before the given ones. -/
def entity (text : String) (fields : List Field) : TypeDefinition :=
  ⟨none, none, name text, [directive "entity" []],
    .object [] (field "id" (required (named "ID")) [] :: fields)⟩

/-- The import type with the given imports. -/
def importType (imports : List Directive) : TypeDefinition :=
  ⟨none, none, name "_Schema_", imports, .object [] []⟩

end EntitySchema.Bare
