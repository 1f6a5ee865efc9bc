/-
# `EntitySchema.Report` — findings as text

A finding is shown to people with the line and the column at which it starts; one that belongs to no
single place is shown without.
-/
import EntitySchema.Finding
import EntitySchema.Text.Lines

namespace EntitySchema

/-- The colours of a report. -/
inductive Color where
  | red
  | green

/-- The code that begins a colour on a terminal. -/
def Color.code : Color → String
  | .red => "31"
  | .green => "32"

/-- A text in a colour, if colours are wanted. -/
def Color.paint (color : Color) (wanted : Bool) (text : String) : String :=
  if wanted then "\x1b[" ++ color.code ++ "m" ++ text ++ "\x1b[39m" else text

/-- The place of a finding in the text of the schema, as it is shown. -/
def Finding.place (finding : Finding) (text : List Char) : String :=
  if finding.location = Span.placeholder then ""
  else
    let position := Text.Position.ofOffset text finding.location.start
    " (line " ++ toString position.line ++ ", column " ++ toString position.column ++ ")"

/-- The line that shows a finding. -/
def Finding.show (finding : Finding) (colored : Bool) (text : List Char) : String :=
  Color.red.paint colored "Error:" ++ " " ++ finding.entity ++ finding.place text ++ ": "
    ++ finding.message

end EntitySchema
