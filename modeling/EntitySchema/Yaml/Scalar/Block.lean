/-
# `EntitySchema.Yaml.Scalar.Block` — scalars of whole lines

A block scalar begins on the line after its header and has all lines of an indentation, which the
header gives or the first line that is not blank.  A literal one keeps its lines; a folded one
joins a line to the next by a space, unless one of them is indented further.  The header also says
what becomes of the breaks at the end.
-/
import EntitySchema.Yaml.Fault
import EntitySchema.Yaml.Scalar.Plain

namespace EntitySchema.Yaml.Block

/-- What becomes of the line breaks at the end of a scalar. -/
inductive Chomping where
  /-- The last line keeps its break. -/
  | clip
  /-- No break is kept. -/
  | strip
  /-- All breaks are kept. -/
  | keep
  deriving DecidableEq

/-- The header of a scalar: what becomes of the breaks at its end, its indentation beyond that of
what it stands in, if given, and the length of both. -/
structure Header where
  chomping : Chomping
  indentation : Option Nat
  size : Nat

/-- The way of chomping that a sign stands for. -/
def chomping? : Option Char → Option Chomping
  | some '+' => some .keep
  | some '-' => some .strip
  | _ => none

/-- The indentation that a digit gives; it must not be none. -/
def indentation? : Option Char → Except Fault (Option Nat)
  | some c =>
      if c = '0' then .error .malformed
      else .ok (if c.isDigit then some (c.toNat - '0'.toNat) else none)
  | none => .ok none

/-- The header at the beginning of a text: a sign and a digit in either order, both optional. -/
def header (text : List Char) : Except Fault Header := do
  match chomping? text.head? with
  | some chomping =>
      let indentation ← indentation? text[1]?
      return ⟨chomping, indentation, 1 + indentation.toList.length⟩
  | none =>
      match ← indentation? text.head? with
      | none => return ⟨.clip, none, 0⟩
      | some n =>
          match chomping? text[1]? with
          | some chomping => return ⟨chomping, some n, 2⟩
          | none => return ⟨.clip, some n, 1⟩

/-- The blank lines in front of a line: what their breaks stand for, their length with the
indentation of the line, and the column after that. -/
structure Lead where
  text : List Char
  size : Nat
  column : Nat

/-- A lead that is one character longer. -/
def Lead.grow (lead : Lead) (more : List Char) : Lead :=
  ⟨more ++ lead.text, lead.size + 1, lead.column⟩

/-- The lead of a line at the beginning of a text that is at some column, with no more spaces of
each line than the indentation has. -/
def leadWithin (indent column : Nat) : List Char → Lead
  | [] => ⟨[], 0, column⟩
  | c :: rest =>
      if c = ' ' ∧ column < indent then (leadWithin indent (column + 1) rest).grow []
      else if isBreak c then (leadWithin indent 0 rest).grow (breakText c)
      else ⟨[], 0, column⟩

/-- The lead of the first line, with all of its spaces, and the most spaces of any line in it. -/
def firstLead (column : Nat) : List Char → Lead × Nat
  | [] => (⟨[], 0, column⟩, column)
  | c :: rest =>
      if c = ' ' then
        let (lead, most) := firstLead (column + 1) rest
        (lead.grow [], most)
      else if isBreak c then
        let (lead, most) := firstLead 0 rest
        (lead.grow (breakText c), max column most)
      else (⟨[], 0, column⟩, column)

/-- The lines of a scalar: their text without the last break, the text of that, what the blank
lines after them stand for, and the length of all. -/
structure Lines where
  text : List Char
  lastBreak : List Char
  after : List Char
  size : Nat

/-- What the break between two lines stands for, with the blank lines between them. -/
def joint (folded : Bool) (line : List Char) (ending : Char) (blank next : List Char) : List Char :=
  let plain := !line.head?.any isBlank && !next.head?.any isBlank
  if folded && plain && breakText ending == ['\n'] then
    (if blank.isEmpty then [' '] else []) ++ blank
  else breakText ending ++ blank

/-- The lines of a scalar, from the first character of one on. -/
def lines (folded : Bool) (indent : Nat) (text : List Char) : Lines :=
  let n := lineLength text
  let line := text.take n
  match _rest : text.drop n with
  | [] => ⟨line, [], [], n⟩
  | ending :: rest =>
      let lead := leadWithin indent 0 rest
      let next := rest.drop lead.size
      let size := n + 1 + lead.size
      if lead.column = indent ∧ next ≠ [] then
        let more := lines folded indent next
        ⟨line ++ joint folded line ending lead.text next ++ more.text, more.lastBreak, more.after,
          size + more.size⟩
      else ⟨line, breakText ending, lead.text, size⟩
termination_by text.length
decreasing_by
  have := congrArg List.length _rest
  simp at this
  simp only [List.length_drop]
  omega

/-- The text of a scalar, its end chomped. -/
def Lines.chomped (lines : Lines) : Chomping → List Char
  | .strip => lines.text
  | .clip => lines.text ++ lines.lastBreak
  | .keep => lines.text ++ lines.lastBreak ++ lines.after

/-- The body of a scalar: its indentation, if given, and otherwise the least it may have, which the
first lines may extend. -/
def body (folded : Bool) (given : Option Nat) (least : Nat) (text : List Char) : Lines :=
  let (lead, indent) :=
    match given with
    | some k =>
        let indent := least + k - 1
        (leadWithin indent 0 text, indent)
    | none =>
        let (lead, most) := firstLead 0 text
        (lead, max least most)
  let rest := text.drop lead.size
  if lead.column = indent ∧ rest ≠ [] then
    let found := lines folded indent rest
    ⟨lead.text ++ found.text, found.lastBreak, found.after, lead.size + found.size⟩
  else ⟨[], [], lead.text, lead.size⟩

/-- A block scalar, read after its indicator, in something whose entries have an indentation: its
text and its length. -/
def read (folded : Bool) (inner : Nat) (text : List Char) : Except Fault (List Char × Nat) := do
  let header ← header text
  let afterHeader := text.drop header.size
  if !atSpace afterHeader then throw .malformed
  let some n := emptyRest? afterHeader | throw .malformed
  let found := body folded header.indentation (max 1 inner) (afterHeader.drop n)
  return (found.chomped header.chomping, header.size + n + found.size)

end EntitySchema.Yaml.Block
