/-
# `EntitySchema.Yaml.Scalar.Quoted` — scalars in quotes

In single quotes nothing but a quote is written specially, namely twice.  In double quotes there are
escapes, by a letter, by a number, and of a line break.  Lines are folded as in plain scalars, and
blanks at both ends of a line do not count.
-/
import EntitySchema.Text.CodePoint
import EntitySchema.Yaml.Fault
import EntitySchema.Yaml.Scalar.Plain

namespace EntitySchema.Yaml.Quoted

/-- The character of an escape by one character. -/
def letterEscape? : Char → Option Char
  | '0' => some '\x00'
  | 'a' => some '\x07'
  | 'b' => some '\x08'
  | 't' => some '\t'
  | '\t' => some '\t'
  | 'n' => some '\n'
  | 'v' => some '\x0b'
  | 'f' => some '\x0c'
  | 'r' => some '\r'
  | 'e' => some '\x1b'
  | ' ' => some ' '
  | '"' => some '"'
  | '\\' => some '\\'
  | '/' => some '/'
  | 'N' => some '\x85'
  | '_' => some '\xa0'
  | 'L' => some '\u2028'
  | 'P' => some '\u2029'
  | _ => none

/-- The number of digits of an escape by a number. -/
def digitCount? : Char → Option Nat
  | 'x' => some 2
  | 'u' => some 4
  | 'U' => some 8
  | _ => none

/-- The number that the first digits of a text write. -/
def numberEscape (count : Nat) (text : List Char) : Except Fault Nat :=
  if (text.take count).length < count then .error .malformed
  else match Text.hexNumber? (text.take count) with
    | none => .error .malformed
    | some n =>
        if n < 0x110000 then .ok n
        else .error (.raised (if n < 0x80000000 then .beyondCharacters else .beyondNumbers))

/-- The breaks of blank lines and the blanks of the line after them: what they stand for, and their
length.  No document may begin or end inside quotes. -/
def blankLines (text : List Char) : Except Fault (List Char × Nat) :=
  if atMarker text then .error .malformed
  else
    let n := blanks text
    match _rest : text.drop n with
    | [] => .ok ([], n)
    | c :: rest =>
        if isBreak c then
          (fun (more, size) => (breakText c ++ more, n + 1 + size)) <$> blankLines rest
        else .ok ([], n)
termination_by text.length
decreasing_by
  have := congrArg List.length _rest
  simp at this
  omega

/-- The blanks and breaks at the beginning of a text, of which there are some: what they stand for,
and their length. -/
def separation (text : List Char) : Except Fault (List Char × Nat) :=
  let n := blanks text
  match text.drop n with
  | [] => .error .malformed
  | c :: rest =>
      if isBreak c then
        (fun (more, size) => (Plain.foldBreaks c more, n + 1 + size)) <$> blankLines rest
      else .ok (text.take n, n)

/-- An escape, read after its backslash: the code points it stands for, and its length. -/
def escape : List Char → Except Fault (List Nat × Nat)
  | [] => .error .malformed
  | c :: rest =>
      match letterEscape? c, digitCount? c with
      | some meant, _ => .ok ([meant.toNat], 1)
      | none, some count => (fun n => ([n], count + 1)) <$> numberEscape count rest
      | none, none =>
          if isBreak c then
            (fun (text, size) => (text.map Char.toNat, size + 1)) <$> blankLines rest
          else .error .malformed

/-- What comes next in a scalar in single or double quotes, where its closing quote does not: the
code points it stands for, and its length. -/
def piece (double : Bool) : List Char → Except Fault (List Nat × Nat)
  | [] => .error .malformed
  | c :: rest =>
      if !double && c == '\'' then .ok ([c.toNat], 2)
      else if double && c == '\\' then (fun (codes, n) => (codes, n + 1)) <$> escape rest
      else if isGap c then
        (fun (text, n) => (text.map Char.toNat, n)) <$> separation (c :: rest)
      else .ok ([c.toNat], 1)

/-- Whether a text begins with the closing quote of a scalar. -/
def closes (double : Bool) (text : List Char) : Bool :=
  if double then startsWith '"' text
  else startsWith '\'' text && !startsWith '\'' (text.drop 1)

/-- The code points of a scalar, read after its opening quote, and its length with the closing
quote. -/
def codes (double : Bool) (text : List Char) : Except Fault (List Nat × Nat) :=
  if closes double text then .ok ([], 1)
  else
    match piece double text with
    | .error fault => .error fault
    | .ok (first, n) =>
        if _read : 0 < n ∧ text ≠ [] then
          (fun (more, size) => (first ++ more, n + size)) <$> codes double (text.drop n)
        else .error .malformed
termination_by text.length
decreasing_by
  have := List.length_pos_iff.2 _read.2
  simp only [List.length_drop]
  omega

/-- A scalar in quotes, read after its opening quote: its text, and its length with the closing
quote.  An escape can be half of a surrogate pair, also where the next one is the other half. -/
def read (double : Bool) (text : List Char) : Except Fault (Text.Str × Nat) :=
  (fun (numbers, n) => (.ofCodes numbers, n)) <$> codes double text

end EntitySchema.Yaml.Quoted
