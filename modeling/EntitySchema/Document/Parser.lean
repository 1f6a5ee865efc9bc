/-
# `EntitySchema.Document.Parser` — reading a document

An item is told by its first word, or by the word after its description.  A document has one item
at least.
-/
import EntitySchema.Document.Parser.Executable

namespace EntitySchema

namespace Parser

/-- Reads an item that begins with a keyword, which a description may stand in front of. -/
def keywordItem (described : Bool) (first keyword : Token) (word : String) : Parser Item :=
  match definition? word, executable? word with
  | some definition, _ => .definition <$> definition
  | none, some executable => .executable <$> executable
  | none, none =>
      if described then fail first.span.start .unexpectedDescription
      else if word = "extend" then .definition <$> extension
      else unexpectedToken keyword

/-- Reads an item. -/
def item : Parser Item := do
  let first ← current
  if first.lexeme = .punctuator .braceOpen then .executable <$> shorthandOperation
  else
    let described := isStringLexeme first.lexeme
    let keyword ← if described then lookahead else pure first
    match keyword.lexeme with
    | .name word => keywordItem described first keyword word
    | .punctuator .braceOpen => fail first.span.start .shorthandDescription
    | _ => unexpectedToken keyword

/-- Reads items up to the end of the text. -/
def itemsWithin : Nat → Parser (List Item)
  | 0 => unexpected
  | n + 1 => do
      if (← current).lexeme = .endOfText then return []
      let first ← item
      let more ← itemsWithin n
      return first :: more

/-- Reads a document. -/
def document : Parser Document := do
  let first ← item
  let more ← itemsWithin (← bound)
  return ⟨first :: more⟩

end Parser

/-- The document that a text writes, or its first fault. -/
def Document.parse (text : List Char) : Except SyntaxError Document := do
  let cursor ← Cursor.ofTokens (Tokens.ofText text)
  let (document, _) ← Parser.document.run cursor
  return document

end EntitySchema
