/-
# `EntitySchema.Command.Help` — what the command line says about itself

There is a text for the program and for each of its subcommands: a line of usage, shown with usage
errors, and the full help that begins with it.
-/
import EntitySchema.Manifest

namespace EntitySchema.Command

/-- What help may be about. -/
inductive Topic where
  | program
  | check
  | suggest
  deriving DecidableEq

namespace Topic

/-- The words that call what a topic is about. -/
def called : Topic → String
  | .program => "subgraph-schema"
  | .check => "subgraph-schema check"
  | .suggest => "subgraph-schema suggest"

/-- The arguments in the line of usage. -/
def synopsis : Topic → String
  | .program => "[-h] COMMAND ..."
  | .check => "[-h] [--json] [--verbose] [path]"
  | .suggest => "[-h] name"

/-- The line of usage. -/
def usage (topic : Topic) : String := "usage: " ++ topic.called ++ " " ++ topic.synopsis ++ "\n"

/-- The lines of the full help after the line of usage. -/
def lines : Topic → List String
  | .program =>
      [ "",
        "Validate subgraph entity schemas",
        "",
        "positional arguments:",
        "  COMMAND",
        "    check     Validate a subgraph schema",
        "    suggest   Suggest the built-in scalar for a mistyped type name",
        "",
        "options:",
        "  -h, --help  show this help message and exit" ]
  | .check =>
      [ "",
        "Validate a GraphQL schema file. PATH may be the schema itself, a manifest, or",
        "a directory containing '" ++ Manifest.fileName ++ "'.",
        "",
        "positional arguments:",
        "  path        Schema file, manifest, or directory containing " ++ Manifest.fileName,
        "              (default: current directory)",
        "",
        "options:",
        "  -h, --help  show this help message and exit",
        "  --json      Print diagnostics as a JSON array on stdout",
        "  --verbose   Enable debug logging" ]
  | .suggest =>
      [ "",
        "Look up the built-in scalar a commonly mistyped type name most likely means.",
        "",
        "positional arguments:",
        "  name        Type name to look up",
        "",
        "options:",
        "  -h, --help  show this help message and exit" ]

/-- The full help. -/
def help (topic : Topic) : String :=
  topic.usage ++ String.join (topic.lines.map (· ++ "\n"))

end Topic

end EntitySchema.Command
