/-
# `EntitySchema.Document.Token` — the tokens of a document

A token is a punctuator, a name, a number or a string, or the end of the text.  Error messages
describe a token by its kind, followed by its value where it has one that is not empty.
-/
import EntitySchema.Text.Lines

namespace EntitySchema

/-- The punctuators of the grammar. -/
inductive Punctuator where
  | bang
  | dollar
  | ampersand
  | parenOpen
  | parenClose
  | spread
  | colon
  | equals
  | at
  | bracketOpen
  | bracketClose
  | braceOpen
  | pipe
  | braceClose
  deriving DecidableEq

namespace Punctuator

/-- A punctuator as it is written. -/
def text : Punctuator → String
  | .bang => "!"
  | .dollar => "$"
  | .ampersand => "&"
  | .parenOpen => "("
  | .parenClose => ")"
  | .spread => "..."
  | .colon => ":"
  | .equals => "="
  | .at => "@"
  | .bracketOpen => "["
  | .bracketClose => "]"
  | .braceOpen => "\x7b"
  | .pipe => "|"
  | .braceClose => "\x7d"

/-- The punctuator that a single character writes. -/
def ofChar? : Char → Option Punctuator
  | '!' => some .bang
  | '$' => some .dollar
  | '&' => some .ampersand
  | '(' => some .parenOpen
  | ')' => some .parenClose
  | ':' => some .colon
  | '=' => some .equals
  | '@' => some .at
  | '[' => some .bracketOpen
  | ']' => some .bracketClose
  | '{' => some .braceOpen
  | '|' => some .pipe
  | '}' => some .braceClose
  | _ => none

end Punctuator

/-- The kinds of token. -/
inductive TokenKind where
  | endOfText
  | punctuator (p : Punctuator)
  | name
  | int
  | float
  | string
  | blockString
  deriving DecidableEq

/-- A kind of token as error messages name it. -/
def TokenKind.describe : TokenKind → String
  | .endOfText => "<EOF>"
  | .punctuator p => "'" ++ p.text ++ "'"
  | .name => "Name"
  | .int => "Int"
  | .float => "Float"
  | .string => "String"
  | .blockString => "BlockString"

/-- What a token is, with the decoded text of a string. -/
inductive Lexeme where
  | endOfText
  | punctuator (p : Punctuator)
  | name (text : String)
  | int (digits : String)
  | float (digits : String)
  | string (text : String)
  | blockString (text : String)
  deriving DecidableEq

namespace Lexeme

/-- The kind of a lexeme. -/
def kind : Lexeme → TokenKind
  | .endOfText => .endOfText
  | .punctuator p => .punctuator p
  | .name _ => .name
  | .int _ => .int
  | .float _ => .float
  | .string _ => .string
  | .blockString _ => .blockString

/-- The value of a lexeme, if its kind has values. -/
def value? : Lexeme → Option String
  | .endOfText | .punctuator _ => none
  | .name v | .int v | .float v | .string v | .blockString v => some v

/-- A lexeme as error messages describe it; an empty value is not shown. -/
def describe (lexeme : Lexeme) : String :=
  lexeme.kind.describe ++
    match lexeme.value? with
    | some value => if value = "" then "" else " '" ++ value ++ "'"
    | none => ""

end Lexeme

/-- A lexeme with the span it was read from. -/
structure Token where
  lexeme : Lexeme
  span : Span

end EntitySchema
