/-
# `EntitySchema.Document.Tokens` — a text as a sequence of tokens

The tokens of a text follow each other until the text ends, or until a fault after which there are
none.  Blanks, commas, line ends, byte order marks and comments stand between tokens and are
skipped.
-/
import EntitySchema.Document.Literal

namespace EntitySchema

/-- The tokens of a text up to its end, the offset of which is kept, or up to a fault. -/
inductive Tokens where
  | done (offset : Nat)
  | fault (error : SyntaxError)
  | cons (token : Token) (rest : Tokens)

namespace Tokens

open EntitySchema.Text

/-- The number of tokens. -/
def length : Tokens → Nat
  | .done _ | .fault _ => 0
  | .cons _ rest => rest.length + 1

/-- Whether a character may stand between tokens. -/
def isIgnored (c : Char) : Bool :=
  c == ' ' || c == '\t' || c == ',' || c == '\uFEFF' || isLineEnd c

/-- A string that begins with a quote at the offset given, and its length after that quote. -/
def readString (offset : Nat) : List Char → Except SyntaxError (Lexeme × Nat)
  | '"' :: '"' :: rest =>
      match Literal.rawBlock? rest with
      | some (raw, n) => .ok (.blockString (Literal.blockText raw), n + 2)
      | none => .error ⟨offset + 3 + rest.length, .unterminatedString⟩
  | rest =>
      (fun (text, n) => (.string (String.ofList text), n)) <$> Literal.quotedText (offset + 1) rest

/-- The token that begins with a character at the offset given, and its length after that
character. -/
def readLexeme (offset : Nat) (c : Char) (rest : List Char) : Except SyntaxError (Lexeme × Nat) :=
  match Punctuator.ofChar? c with
  | some p => .ok (.punctuator p, 0)
  | none =>
      if c = '"' then readString offset rest
      else if c = '-' ∨ c.isDigit then
        (fun (lexeme, size) => (lexeme, size - 1)) <$> Literal.number offset (c :: rest)
      else if isNameStart c then
        let more := rest.takeWhile isNamePart
        .ok (.name (String.ofList (c :: more)), more.length)
      else if c = '.' ∧ rest.take 2 = ['.', '.'] then .ok (.punctuator .spread, 2)
      else .error ⟨offset, .unexpectedCharacter c⟩

/-- The tokens of a text whose first character has the offset given. -/
def ofTextFrom (offset : Nat) : List Char → Tokens
  | [] => .done offset
  | c :: rest =>
      if isIgnored c then ofTextFrom (offset + 1) rest
      else if c = '#' then
        let n := (rest.takeWhile (!isLineEnd ·)).length
        ofTextFrom (offset + 1 + n) (rest.drop n)
      else match readLexeme offset c rest with
        | .error error => .fault error
        | .ok (lexeme, n) =>
            .cons ⟨lexeme, ⟨offset, offset + 1 + n⟩⟩ (ofTextFrom (offset + 1 + n) (rest.drop n))
termination_by text => text.length
decreasing_by all_goals (simp only [List.length_cons, List.length_drop]; omega)

/-- The tokens of a text. -/
def ofText (text : List Char) : Tokens := ofTextFrom 0 text

end Tokens

end EntitySchema
