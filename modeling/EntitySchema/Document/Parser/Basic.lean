/-
# `EntitySchema.Document.Parser.Basic` — reading along a sequence of tokens

A parser stands at a token and has the tokens after it before it.  It goes on by one token at a
time, so a fault of the text comes up when the parser reaches the token in front of it: earlier
than what is wrong with the grammar after that, later than what is wrong before.

A loop is bounded by the number of tokens left, as each of its rounds takes one at least.
-/
import EntitySchema.Document.Basic
import EntitySchema.Document.Tokens

namespace EntitySchema

/-- The token at the end of a text. -/
def Token.atEnd (offset : Nat) : Token := ⟨.endOfText, ⟨offset, offset⟩⟩

/-- Where a parser stands: the token to be read next, those after it, and the end of the token read
last. -/
structure Cursor where
  current : Token
  rest : Tokens
  lastStop : Nat

namespace Cursor

/-- The cursor at the beginning of a sequence of tokens. -/
def ofTokens : Tokens → Except SyntaxError Cursor
  | .done offset => .ok ⟨.atEnd offset, .done offset, 0⟩
  | .fault error => .error error
  | .cons token rest => .ok ⟨token, rest, 0⟩

/-- The token after the current one. -/
def next (cursor : Cursor) : Except SyntaxError Token :=
  match cursor.rest with
  | .done offset => .ok (.atEnd offset)
  | .fault error => .error error
  | .cons token _ => .ok token

/-- The cursor after the current token. -/
def advance (cursor : Cursor) : Except SyntaxError Cursor :=
  match cursor.rest with
  | .done offset => .ok ⟨.atEnd offset, .done offset, cursor.current.span.stop⟩
  | .fault error => .error error
  | .cons token rest => .ok ⟨token, rest, cursor.current.span.stop⟩

/-- The number of tokens from the current one on, the end of the text included. -/
def left (cursor : Cursor) : Nat := cursor.rest.length + 2

end Cursor

/-- A reader of something at the cursor. -/
abbrev Parser (α : Type) := StateT Cursor (Except SyntaxError) α

namespace Parser

variable {α : Type}

/-- Stops with a fault at an offset. -/
def fail (offset : Nat) (cause : SyntaxError.Cause) : Parser α := throw ⟨offset, cause⟩

/-- The current token. -/
def current : Parser Token := do return (← get).current

/-- The token after the current one. -/
def lookahead : Parser Token := do return ← (← get).next

/-- Goes on by one token, and gives the token that was current. -/
def advance : Parser Token := do
  let cursor ← get
  set (← cursor.advance)
  return cursor.current

/-- The offset of the current token. -/
def offset : Parser Nat := do return (← get).current.span.start

/-- The number of tokens left: a bound for loops and for nesting. -/
def bound : Parser Nat := do return (← get).left

/-- The span from an offset to the end of the token read last. -/
def spanFrom (start : Nat) : Parser (Option Span) := do return some ⟨start, (← get).lastStop⟩

/-- Stops at a token that has no place where it stands. -/
def unexpectedToken (token : Token) : Parser α := fail token.span.start (.unexpected token.lexeme)

/-- Stops at the current token. -/
def unexpected : Parser α := do unexpectedToken (← current)

/-- Whether the current token is a punctuator. -/
def sees (p : Punctuator) : Parser Bool := do
  return decide ((← current).lexeme = .punctuator p)

/-- Whether the current token is a name. -/
def seesName : Parser Bool := do return decide ((← current).lexeme.kind = .name)

/-- Reads a punctuator. -/
def expect (p : Punctuator) : Parser Token := do
  let token ← current
  if token.lexeme = .punctuator p then advance
  else fail token.span.start (.expected (.punctuator p) token.lexeme)

/-- Reads a punctuator if it comes next. -/
def accept (p : Punctuator) : Parser Bool := do
  if ← sees p then
    discard advance
    return true
  else return false

/-- Reads a keyword. -/
def expectKeyword (word : String) : Parser Unit := do
  let token ← current
  if token.lexeme = .name word then discard advance
  else fail token.span.start (.expectedKeyword word token.lexeme)

/-- Reads a keyword if it comes next. -/
def acceptKeyword (word : String) : Parser Bool := do
  if (← current).lexeme = .name word then
    discard advance
    return true
  else return false

/-! ## Sequences -/

/-- Reads items up to a closing punctuator. -/
def untilClose (close : Punctuator) (item : Parser α) : Nat → Parser (List α)
  | 0 => unexpected
  | n + 1 => do
      if ← accept close then return []
      let first ← item
      let more ← untilClose close item n
      return first :: more

/-- Reads any number of items between an opening and a closing punctuator. -/
def any (opening close : Punctuator) (item : Parser α) : Parser (List α) := do
  discard (expect opening)
  untilClose close item (← bound)

/-- Reads items between an opening and a closing punctuator, one at least. -/
def many (opening close : Punctuator) (item : Parser α) : Parser (List α) := do
  discard (expect opening)
  let first ← item
  let more ← untilClose close item (← bound)
  return first :: more

/-- Reads items between an opening and a closing punctuator, one at least, or nothing at all. -/
def optionalMany (opening close : Punctuator) (item : Parser α) : Parser (List α) := do
  if ← sees opening then many opening close item else return []

/-- Reads items each of which has a separator in front of it. -/
def afterSeparators (separator : Punctuator) (item : Parser α) : Nat → Parser (List α)
  | 0 => unexpected
  | n + 1 => do
      if ← accept separator then
        let first ← item
        let more ← afterSeparators separator item n
        return first :: more
      else return []

/-- Reads items with a separator between them, one at least; a separator may stand in front. -/
def separated (separator : Punctuator) (item : Parser α) : Parser (List α) := do
  discard (accept separator)
  let first ← item
  let more ← afterSeparators separator item (← bound)
  return first :: more

/-! ## Names -/

/-- Reads a name. -/
def name : Parser Name := do
  let token ← current
  match token.lexeme with
  | .name text =>
      discard advance
      return ⟨some token.span, text⟩
  | found => fail token.span.start (.expected .name found)

end Parser

end EntitySchema
