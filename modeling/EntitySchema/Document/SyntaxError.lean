/-
# `EntitySchema.Document.SyntaxError` — why a text is no document

The cause of a syntax error says what is wrong, its offset says where; `message` puts the wording
of the cause above an excerpt of the text.
-/
import EntitySchema.Document.Token
import EntitySchema.Text.CodePoint
import EntitySchema.Text.Excerpt

namespace EntitySchema

namespace SyntaxError

/-- What is wrong with a text. -/
inductive Cause where
  /-- A token of one kind was needed and another one found. -/
  | expected (kind : TokenKind) (found : Lexeme)
  /-- A keyword was needed and something else found. -/
  | expectedKeyword (keyword : String) (found : Lexeme)
  /-- A token has no place where it stands. -/
  | unexpected (found : Lexeme)
  /-- A value of an enumeration has the name of another value. -/
  | reservedEnumValue (found : Lexeme)
  /-- A variable stands in a value that has to be constant. -/
  | variableInConstant (name : String)
  /-- A description stands before something that takes none. -/
  | unexpectedDescription
  /-- A description stands before an operation that consists of its selections only. -/
  | shorthandDescription
  /-- No token begins with this character. -/
  | unexpectedCharacter (c : Char)
  /-- A string is not closed on its line, or a block not at all. -/
  | unterminatedString
  /-- An escape that means nothing. -/
  | invalidEscape (shown : String)
  /-- An escape by number that stands for no character. -/
  | invalidUnicodeEscape (shown : String)
  /-- A number with a digit after a leading zero. -/
  | digitAfterZero (found : Option Char)
  /-- A number that lacks a digit, or that something else follows at once. -/
  | expectedDigit (found : Option Char)

/-- A character of the text, or its end, as error messages show it. -/
def showChar : Option Char → String
  | none => TokenKind.endOfText.describe
  | some c =>
      if ' ' ≤ c ∧ c ≤ '~' then "'" ++ String.ofList [c] ++ "'" else Text.codePointName c

/-- The wording of a cause. -/
def Cause.message : Cause → String
  | .expected kind found => "Expected " ++ kind.describe ++ ", found " ++ found.describe ++ "."
  | .expectedKeyword keyword found =>
      "Expected '" ++ keyword ++ "', found " ++ found.describe ++ "."
  | .unexpected found => "Unexpected " ++ found.describe ++ "."
  | .reservedEnumValue found =>
      found.describe ++ " is reserved and cannot be used for an enum value."
  | .variableInConstant name => "Unexpected variable '$" ++ name ++ "' in constant value."
  | .unexpectedDescription =>
      "Unexpected description, only GraphQL definitions support descriptions."
  | .shorthandDescription =>
      "Unexpected description, descriptions are not supported on shorthand queries."
  | .unexpectedCharacter c =>
      if c = '\'' then
        "Unexpected single quote character ('), did you mean to use a double quote (\")?"
      else "Unexpected character: " ++ showChar (some c) ++ "."
  | .unterminatedString => "Unterminated string."
  | .invalidEscape shown => "Invalid character escape sequence: '" ++ shown ++ "'."
  | .invalidUnicodeEscape shown => "Invalid Unicode escape sequence: '" ++ shown ++ "'."
  | .digitAfterZero found =>
      "Invalid number, unexpected digit after 0: " ++ showChar found ++ "."
  | .expectedDigit found =>
      "Invalid number, expected digit but got: " ++ showChar found ++ "."

end SyntaxError

/-- A fault of a text: where, and what is wrong. -/
structure SyntaxError where
  offset : Nat
  cause : SyntaxError.Cause

namespace SyntaxError

/-- The name of a text in the excerpts of error messages. -/
def textName : String := "GraphQL request"

/-- The wording of a syntax error of a text. -/
def message (error : SyntaxError) (text : List Char) : String :=
  "Syntax Error: " ++ error.cause.message ++ "\n\n"
    ++ Text.Excerpt.render textName text error.offset

end SyntaxError

end EntitySchema
