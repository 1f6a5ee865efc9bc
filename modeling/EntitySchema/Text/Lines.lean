/-
# `EntitySchema.Text.Lines` — stretches, pieces and lines of a text

Offsets count code points from zero.  A span runs from its first offset to one past its last.
A syntax tree may be read without positions, so the nodes of a tree carry an optional span, and
what is reported about such a node is placed at `Span.placeholder`.

A line ends at a line feed, at a carriage return, or at a carriage return with a line feed right
after it, which count as one end.  `breaks` finds the line ends of a text, `lines` cuts the text
there, and `foldLineEnds` writes each of them as a single line feed.  The line of an offset counts
the line ends that begin before it; its column counts from the end of the last of these.  Both
start at one.
-/

namespace EntitySchema

/-! ## Spans -/

/-- A stretch of a text: the code points at the offsets `start, …, stop - 1`. -/
structure Span where
  start : Nat
  stop : Nat
  deriving DecidableEq

namespace Span

/-- The place of a finding that belongs to no single stretch of the text. -/
def placeholder : Span := ⟨1, 1⟩

/-- The place at which a node is reported: its span, or the placeholder if it has none. -/
def orPlaceholder (span : Option Span) : Span := span.getD placeholder

@[simp] theorem orPlaceholder_some (s : Span) : orPlaceholder (some s) = s := rfl

@[simp] theorem orPlaceholder_none : orPlaceholder none = placeholder := rfl

end Span

namespace Text

/-! ## Pieces -/

/-- The pieces of a text between the characters that are separators: with `n` of these there are
`n + 1` pieces, some of which may be empty.  A text may also be given by the numbers of its code
points. -/
def cutAt {α : Type} [DecidableEq α] (separator : α) : List α → List (List α)
  | [] => [[]]
  | c :: rest =>
      if c = separator then [] :: cutAt separator rest
      else match cutAt separator rest with
        | [] => [[c]]
        | piece :: more => (c :: piece) :: more

/-- The length of the longest beginning of a text whose characters all satisfy a condition. -/
def countWhile (p : Char → Bool) (text : List Char) : Nat := (text.takeWhile p).length

/-! ## Line ends -/

/-- A line end of one code point. -/
def isLineEnd (c : Char) : Bool := c == '\n' || c == '\r'

/-- The line ends of a text whose first code point has the offset given. -/
def breaks : Nat → List Char → List Span
  | _, [] => []
  | i, '\r' :: '\n' :: rest => ⟨i, i + 2⟩ :: breaks (i + 2) rest
  | i, c :: rest =>
      if isLineEnd c then ⟨i, i + 1⟩ :: breaks (i + 1) rest else breaks (i + 1) rest

/-- A text cut at its line ends: always at least one line. -/
def lines : List Char → List (List Char)
  | [] => [[]]
  | '\r' :: '\n' :: rest => [] :: lines rest
  | c :: rest =>
      if isLineEnd c then [] :: lines rest
      else match lines rest with
        | [] => [[c]]
        | line :: more => (c :: line) :: more

/-- The text with each of its line ends written as one line feed. -/
def foldLineEnds : List Char → List Char
  | [] => []
  | '\r' :: '\n' :: rest => '\n' :: foldLineEnds rest
  | c :: rest => (if c = '\r' then '\n' else c) :: foldLineEnds rest

/-! ## Positions -/

/-- A place in a text as an editor shows it; lines and columns start at one. -/
structure Position where
  line : Nat
  column : Nat
  deriving DecidableEq

/-- The position of an offset of a text. -/
def Position.ofOffset (text : List Char) (offset : Nat) : Position :=
  let before := (breaks 0 text).takeWhile (·.start < offset)
  let lineStart := (before.getLast?.map (·.stop)).getD 0
  ⟨before.length + 1, offset + 1 - lineStart⟩

end Text

end EntitySchema
