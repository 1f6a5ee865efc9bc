/-
# `EntitySchema.Document.Parser.Executable` — operations and fragments

They have no place in a schema, but they have to be well-formed before that can be said.  So their
selections and variables are read, and only their names and directives are kept.
-/
import EntitySchema.Document.Parser.TypeSystem

namespace EntitySchema.Parser

/-- Reads the name of a fragment, which cannot be `on`. -/
def fragmentName : Parser Name := do
  if (← current).lexeme.value? = some "on" then unexpected else name

/-- Reads a selected field, given the reader of the selections inside it. -/
def selectedField (selections : Parser Unit) : Parser Unit := do
  discard name
  if ← accept .colon then discard name
  discard (arguments false)
  discard (directives false)
  if ← sees .braceOpen then selections

/-- Reads a fragment within a selection, by its name or in place, given the reader of the
selections inside it. -/
def selectedFragment (selections : Parser Unit) : Parser Unit := do
  discard (expect .spread)
  let conditional ← acceptKeyword "on"
  if !conditional && (← seesName) then
    discard fragmentName
    discard (directives false)
  else
    if conditional then discard namedType
    discard (directives false)
    selections

/-- Reads selections, with a bound for their nesting. -/
def selectionsWithin : Nat → Parser Unit
  | 0 => unexpected
  | n + 1 => do
      discard <| many .braceOpen .braceClose do
        if ← sees .spread then selectedFragment (selectionsWithin n)
        else selectedField (selectionsWithin n)

/-- Reads selections. -/
def selections : Parser Unit := do selectionsWithin (← bound)

/-- Reads a variable that an operation takes. -/
def variableDefinition : Parser Unit := do
  discard description
  discard (variableName false)
  discard (expect .colon)
  discard typeExpr
  if ← accept .equals then discard (value true)
  discard (directives true)

/-- Reads an operation that consists of its selections only. -/
def shorthandOperation : Parser Executable := do
  let start ← offset
  selections
  return { span := ← spanFrom start, kind := .operation, description := none, name := none,
           directives := [] }

/-- Reads an operation. -/
def operation : Parser Executable := do
  let start ← offset
  let description ← description
  discard operationKind
  let name ← if ← seesName then some <$> name else pure none
  discard (optionalMany .parenOpen .parenClose variableDefinition)
  let directives ← directives false
  selections
  return { span := ← spanFrom start, kind := .operation, description, name, directives }

/-- Reads a fragment. -/
def fragment : Parser Executable := do
  let start ← offset
  let description ← description
  expectKeyword "fragment"
  let name ← fragmentName
  expectKeyword "on"
  discard namedType
  let directives ← directives false
  selections
  return { span := ← spanFrom start, kind := .fragment, description, name := some name,
           directives }

/-- The reader of the executable that a keyword begins. -/
def executable? (keyword : String) : Option (Parser Executable) :=
  if (operationKind? keyword).isSome then some operation
  else if keyword = "fragment" then some fragment
  else none

end EntitySchema.Parser
