/-
# `EntitySchema.Command.Log` — what a check has done

A check keeps a log of its steps, which is shown on request.  Every entry has the name of the part
of the program that it comes from.
-/
import EntitySchema.Files.Path

namespace EntitySchema.Command

/-- A step that a check has done or begins. -/
inductive LogEntry where
  /-- A manifest has been loaded, which names the file of its schema. -/
  | manifestLoaded (path : Path) (file : String)
  /-- The validation of a schema begins. -/
  | validating (path : Path)
  /-- A schema has been loaded, with a number of characters. -/
  | schemaLoaded (path : Path) (size : Nat)
  /-- A schema has been parsed, with a number of definitions. -/
  | schemaParsed (definitions : Nat)
  /-- A number of definitions have been validated, with a number of findings. -/
  | validated (definitions findings : Nat)

namespace LogEntry

/-- The part of the program that an entry comes from. -/
def origin : LogEntry → String
  | .manifestLoaded _ _ => "subgraph_schema.workspace.manifest"
  | .validating _ => "subgraph_schema.cli.main"
  | .schemaLoaded _ _ | .schemaParsed _ => "subgraph_schema.compiler.loader"
  | .validated _ _ => "subgraph_schema.validation.checks"

/-- The wording of an entry. -/
def message : LogEntry → String
  | .manifestLoaded path file =>
      "Loaded manifest " ++ path.toString ++ " (schema: " ++ file ++ ")"
  | .validating path => "Validating schema " ++ path.toString
  | .schemaLoaded path size =>
      "Loaded schema from " ++ path.toString ++ " (" ++ toString size ++ " characters)"
  | .schemaParsed definitions => "Parsed " ++ toString definitions ++ " schema definitions"
  | .validated definitions findings =>
      "Validated " ++ toString definitions ++ " definitions: " ++ toString findings
        ++ " diagnostics"

/-- The line that shows an entry. -/
def line (entry : LogEntry) : String :=
  "DEBUG " ++ entry.origin ++ ": " ++ entry.message ++ "\n"

end LogEntry

/-- The lines that show a log, if they are wanted. -/
def logLines (wanted : Bool) (log : List LogEntry) : String :=
  if wanted then String.join (log.map LogEntry.line) else ""

end EntitySchema.Command
