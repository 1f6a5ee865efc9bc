/-
# `EntitySchema.Yaml.Scalar.Plain` — scalars without quotes

A plain scalar ends at a colon or a comment that follows or precedes a blank, inside brackets at
their punctuation too.  It may go on over several lines as long as these are indented: a single
line break counts as a space, of several all but the first count.
-/
import EntitySchema.Yaml.Character

namespace EntitySchema.Yaml.Plain

/-- Whether a plain scalar may begin where a text begins, inside brackets or not. -/
def starts (inBrackets : Bool) : List Char → Bool
  | [] => false
  | c :: rest =>
      !(isGap c || "-?:,[]\x7b\x7d#&*!|>'\"%@\x60".toList.contains c)
        || (!atGap rest && (c == '-' || (!inBrackets && (c == '?' || c == ':'))))

/-- Whether a colon in front of a text ends the word it stands in. -/
def endsKey (inBrackets : Bool) (rest : List Char) : Bool :=
  atGap rest || (inBrackets && rest.head?.any ",[]\x7b\x7d".toList.contains)

/-- Whether a word ends in front of a character and the text after it. -/
def ends (inBrackets : Bool) (c : Char) (rest : List Char) : Bool :=
  isGap c || (c == ':' && endsKey inBrackets rest)
    || (inBrackets && ",?[]\x7b\x7d".toList.contains c)

/-- The length of the word at the beginning of a text. -/
def wordLength (inBrackets : Bool) : List Char → Nat
  | [] => 0
  | c :: rest => if ends inBrackets c rest then 0 else wordLength inBrackets rest + 1

/-- What stands between two words of a scalar. -/
structure Separation where
  /-- What it stands for; empty if the scalar cannot go on after it. -/
  text : List Char
  /-- Its length. -/
  size : Nat
  /-- The column after it, if it has a line break. -/
  column : Option Nat

/-- A separation that is one character longer. -/
def Separation.grow (s : Separation) (more : List Char) : Separation :=
  ⟨more ++ s.text, s.size + 1, s.column⟩

/-- The breaks and spaces from some column of a line on; nothing if a document ends there. -/
def blankLines (column : Nat) : List Char → Separation × Bool
  | [] => (⟨[], 0, some column⟩, true)
  | c :: rest =>
      if c = ' ' then
        let (s, open?) := blankLines (column + 1) rest
        (s.grow [], open?)
      else if isBreak c then
        if atMarker rest then (⟨[], 1, some 0⟩, false)
        else
          let (s, open?) := blankLines 0 rest
          (s.grow (breakText c), open?)
      else (⟨[], 0, some column⟩, true)

/-- What a line break and the breaks after it stand for. -/
def foldBreaks (first : Char) (more : List Char) : List Char :=
  if breakText first ≠ ['\n'] then breakText first ++ more
  else if more.isEmpty then [' '] else more

/-- The separation at the beginning of a text. -/
def separation (text : List Char) : Separation :=
  let n := spaces text
  match text.drop n with
  | [] => ⟨text.take n, n, none⟩
  | c :: rest =>
      if isBreak c then
        if atMarker rest then ⟨[], n + 1, some 0⟩
        else
          let (s, open?) := blankLines 0 rest
          ⟨if open? then foldBreaks c s.text else [], n + 1 + s.size, s.column⟩
      else ⟨text.take n, n, none⟩

/-- A plain scalar: its text, its length with the separation after it, and whether this has a line
break. -/
structure Scalar where
  text : List Char
  size : Nat
  endsLine : Bool

/-- Whether a scalar of an indentation goes on after a separation. -/
def goesOn (inBrackets : Bool) (indent : Nat) (s : Separation) (rest : List Char) : Bool :=
  !s.text.isEmpty && !startsWith '#' rest && (inBrackets || s.column.all (indent ≤ ·))
    && wordLength inBrackets rest ≠ 0

/-- The plain scalar at the beginning of a text, the lines of which have an indentation at least. -/
def read (inBrackets : Bool) (indent : Nat) (text : List Char) : Scalar :=
  let n := wordLength inBrackets text
  let word := text.take n
  let s := separation (text.drop n)
  let size := n + s.size
  let rest := text.drop size
  if _shorter : 0 < size ∧ rest ≠ [] ∧ goesOn inBrackets indent s rest then
    let more := read inBrackets indent rest
    ⟨word ++ s.text ++ more.text, size + more.size, more.endsLine⟩
  else ⟨word, size, s.column.isSome⟩
termination_by text.length
decreasing_by
  have moved := _shorter.1
  have left := List.length_pos_iff.2 _shorter.2.1
  simp only [rest, size, s, n, List.length_drop] at moved left ⊢
  omega

end EntitySchema.Yaml.Plain
