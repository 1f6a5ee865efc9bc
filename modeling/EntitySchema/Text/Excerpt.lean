/-
# `EntitySchema.Text.Excerpt` — showing a place in a text

An excerpt names a place, shows its line between its neighbours, and puts a caret under its
column.  Each row has a label, and all labels are brought to one width.  A line of more than 120
characters is shown in pieces of 80 instead, without neighbours, down to the piece after the one
that holds the column.
-/
import EntitySchema.Text.Lines

namespace EntitySchema.Text.Excerpt

/-- A row of an excerpt: its label and its text. -/
structure Row where
  label : List Char
  text : List Char

/-- A row as it is shown, its label moved to the right end of the width; no blank follows the label
of an empty row. -/
def Row.render (width : Nat) (row : Row) : List Char :=
  row.label.leftpad width ' ' ++ (if row.text.isEmpty then [] else ' ' :: row.text)

/-- The row of a numbered line. -/
def numbered (line : Nat) (text : List Char) : Row := ⟨(toString line).toList ++ " |".toList, text⟩

/-- A row without a number. -/
def unnumbered (text : List Char) : Row := ⟨['|'], text⟩

/-- The row that points at a column. -/
def caret (column : Nat) : Row := unnumbered (['^'].leftpad column ' ')

/-- The length above which a line is shown in pieces. -/
def longestLine : Nat := 120

/-- The length of a piece. -/
def pieceSize : Nat := 80

/-- A text cut into pieces of the size given, the last of which may be shorter. -/
def pieces (size : Nat) (text : List Char) : List (List Char) :=
  (List.range ((text.length + size - 1) / size)).map fun k => (text.drop (k * size)).take size

/-- The rows of a line that is too long to be shown whole. -/
def longRows (position : Position) (line : List Char) : List Row :=
  let parts := pieces pieceSize line
  let k := min ((position.column - 1) / pieceSize) (parts.length - 1)
  match parts with
  | [] => []
  | first :: more =>
      numbered position.line first :: (more.take k).map unnumbered
        ++ caret (position.column - pieceSize * k) :: ((more.drop k).take 1).map unnumbered

/-- The rows of a line with its neighbours. -/
def shortRows (position : Position) (all : List (List Char)) (line : List Char) : List Row :=
  let index := position.line - 1
  let previous := if index = 0 then [] else all[index - 1]?.toList.map (numbered (index))
  previous ++ numbered position.line line :: caret position.column
    :: all[index + 1]?.toList.map (numbered (position.line + 1))

/-- The rows of the excerpt at a position of a text. -/
def rows (text : List Char) (position : Position) : List Row :=
  let all := lines text
  let line := all.getD (position.line - 1) []
  if line.length > longestLine then longRows position line else shortRows position all line

/-- The excerpt of a text at an offset, under the name of the text and the position. -/
def render (name : String) (text : List Char) (offset : Nat) : String :=
  let position := Position.ofOffset text offset
  let shown := rows text position
  let width := (shown.map (·.label.length)).foldl max 0
  let body := (shown.map fun row => String.ofList (row.render width))
  name ++ ":" ++ toString position.line ++ ":" ++ toString position.column ++ "\n"
    ++ "\n".intercalate body

end EntitySchema.Text.Excerpt
