/-
# `EntitySchema.Document.Literal` — numbers and strings

Readers for the literals of a document.  Each of them is given the text from its first character
on and says how many characters the literal takes; a fault is placed by the offset at which that
text begins.

* A number is an integer without leading zeros, with a fraction and an exponent where wanted;
  nothing that could be taken for more of it may follow at once.
* A string in quotes ends on its line.  Escapes by number stand for Unicode scalar values; two of
  four digits may form a surrogate pair.
* A block string may go over many lines.  The indentation that all lines but the first have in
  common is taken away, and so are blank lines at both ends.
-/
import EntitySchema.Document.SyntaxError
import EntitySchema.Document.TypeExpr

namespace EntitySchema.Literal

open EntitySchema.Text SyntaxError

/-! ## Numbers -/

/-- The length of a run of digits, which must not be empty. -/
def digits (offset : Nat) (text : List Char) : Except SyntaxError Nat :=
  match (text.takeWhile Char.isDigit).length with
  | 0 => .error ⟨offset, .expectedDigit text.head?⟩
  | n + 1 => .ok (n + 1)

/-- The length of the whole part of a number: a zero alone, or digits. -/
def wholePart (offset : Nat) : List Char → Except SyntaxError Nat
  | '0' :: rest =>
      if rest.head?.any Char.isDigit then .error ⟨offset + 1, .digitAfterZero rest.head?⟩
      else .ok 1
  | text => digits offset text

/-- The length of the fraction of a number, if there is one. -/
def fraction (offset : Nat) : List Char → Except SyntaxError Nat
  | '.' :: rest => (1 + ·) <$> digits (offset + 1) rest
  | _ => .ok 0

/-- The length of a sign, if there is one. -/
def sign (allowed : List Char) (text : List Char) : Nat :=
  if text.head?.any allowed.contains then 1 else 0

/-- The length of the exponent of a number, if there is one. -/
def exponent (offset : Nat) : List Char → Except SyntaxError Nat
  | c :: rest =>
      if c = 'e' ∨ c = 'E' then
        let n := 1 + sign ['+', '-'] rest
        (n + ·) <$> digits (offset + n) (rest.drop (n - 1))
      else .ok 0
  | [] => .ok 0

/-- Whether a character right after a number would be taken for more of it. -/
def goesOnNumber (c : Char) : Bool := c == '.' || isNameStart c

/-- The number at the beginning of a text, and its length. -/
def number (offset : Nat) (text : List Char) : Except SyntaxError (Lexeme × Nat) := do
  let signed := sign ['-'] text
  let whole ← wholePart (offset + signed) (text.drop signed)
  let integer := signed + whole
  let decimals ← fraction (offset + integer) (text.drop integer)
  let power ← exponent (offset + integer + decimals) (text.drop (integer + decimals))
  let size := integer + decimals + power
  let next := (text.drop size).head?
  if next.any goesOnNumber then throw ⟨offset + size, .expectedDigit next⟩
  let written := String.ofList (text.take size)
  return (if decimals + power = 0 then .int written else .float written, size)

/-! ## Strings in quotes -/

/-- The character of an escape by a letter. -/
def letterEscape? : Char → Option Char
  | '"' => some '"'
  | '\\' => some '\\'
  | '/' => some '/'
  | 'b' => some '\x08'
  | 'f' => some '\x0c'
  | 'n' => some '\n'
  | 'r' => some '\r'
  | 't' => some '\t'
  | _ => none

/-- The number that the first four characters of a text write in hexadecimal digits. -/
def fourDigits? (text : List Char) : Option Nat :=
  let digits := text.take 4
  if digits.length < 4 then none else hexNumber? digits

/-- The most characters that an escape by a number in braces may have. -/
def longestBraced : Nat := 12

/-- The digits of an escape in braces, after `read` characters that write `code`: the character
meant and the characters read, or the characters up to the fault. -/
def bracedDigits (read code : Nat) : List Char → Except Nat (Char × Nat)
  | [] => .error read
  | c :: rest =>
      if c = '}' then
        match if read = 0 then none else scalar? code with
        | some meant => .ok (meant, read + 1)
        | none => .error (read + 1)
      else match hexValue? c with
        | some d => bracedDigits (read + 1) (code * 16 + d) rest
        | none => .error (read + 1)

/-- An escape by a number in braces, read after the opening brace. -/
def bracedEscape (rest : List Char) : Except Cause (Char × Nat) :=
  match bracedDigits 0 0 (rest.take (longestBraced - 3)) with
  | .ok (meant, n) => .ok (meant, n + 2)
  | .error n => .error (.invalidUnicodeEscape (String.ofList ('\\' :: 'u' :: '{' :: rest.take n)))

/-- An escape by four digits, or by two times four that are a surrogate pair, read after the first
`u`. -/
def fixedEscape (rest : List Char) : Except Cause (Char × Nat) :=
  let fault := .error (.invalidUnicodeEscape (String.ofList ('\\' :: 'u' :: rest.take 4)))
  match fourDigits? rest with
  | none => fault
  | some code =>
      match scalar? code, rest.drop 4 with
      | some meant, _ => .ok (meant, 5)
      | none, '\\' :: 'u' :: more =>
          match (fourDigits? more).filter isLowSurrogate with
          | some low =>
              if isHighSurrogate code then .ok (Char.ofNat (ofSurrogates code low), 11) else fault
          | none => fault
      | none, _ => fault

/-- An escape, read after its backslash: the character it stands for and its length. -/
def escape : List Char → Except Cause (Char × Nat)
  | 'u' :: '{' :: rest => bracedEscape rest
  | 'u' :: rest => fixedEscape rest
  | c :: _ =>
      match letterEscape? c with
      | some meant => .ok (meant, 1)
      | none => .error (.invalidEscape (String.ofList ['\\', c]))
  | [] => .error (.invalidEscape "\\")

/-- A string in quotes, read after its opening quote: its text and its length with the closing
quote. -/
def quotedText (offset : Nat) : List Char → Except SyntaxError (List Char × Nat)
  | [] => .error ⟨offset, .unterminatedString⟩
  | c :: rest =>
      if c = '"' then .ok ([], 1)
      else if c = '\\' then
        match escape rest with
        | .error cause => .error ⟨offset, cause⟩
        | .ok (meant, n) =>
            (fun (text, size) => (meant :: text, size + 1 + n))
              <$> quotedText (offset + 1 + n) (rest.drop n)
      else if isLineEnd c then .error ⟨offset, .unterminatedString⟩
      else (fun (text, size) => (c :: text, size + 1)) <$> quotedText (offset + 1) rest
termination_by text => text.length
decreasing_by all_goals (simp only [List.length_cons, List.length_drop]; omega)

/-! ## Block strings -/

/-- The raw text of a block string, read after its opening quotes, and its length with the closing
ones; nothing if it is not closed.  Three quotes inside it are written with a backslash. -/
def rawBlock? : List Char → Option (List Char × Nat)
  | '"' :: '"' :: '"' :: _ => some ([], 3)
  | '\\' :: '"' :: '"' :: '"' :: rest =>
      (rawBlock? rest).map fun (text, n) => ('"' :: '"' :: '"' :: text, n + 4)
  | c :: rest => (rawBlock? rest).map fun (text, n) => (c :: text, n + 1)
  | [] => none

/-- Whether a character indents a line. -/
def isIndent (c : Char) : Bool := c == ' ' || c == '\t'

/-- The length of the indentation of a line. -/
def indentation (line : List Char) : Nat := (line.takeWhile isIndent).length

/-- Whether a line has nothing but indentation. -/
def isBlank (line : List Char) : Bool := line.all isIndent

/-- The indentation that the lines with something on them have in common. -/
def commonIndentation (all : List (List Char)) : Nat :=
  (((all.filter (!isBlank ·)).map indentation).min?).getD 0

/-- Lines without blank ones at both ends. -/
def trimBlank (all : List (List Char)) : List (List Char) :=
  ((all.dropWhile isBlank).reverse.dropWhile isBlank).reverse

/-- The text of a block string, from its raw text. -/
def blockText (raw : List Char) : String :=
  match lines raw with
  | [] => ""
  | first :: more =>
      let common := commonIndentation more
      let shifted := first :: more.map (·.drop common)
      "\n".intercalate ((trimBlank shifted).map String.ofList)

end EntitySchema.Literal
