/-
# `EntitySchema.Command.Check` — checking a schema from the command line

A path to check is the schema itself, a manifest, or a directory with a manifest.  Findings are
reported as lines for people or in JSON; either way the exit status says whether there are any.
Errors on the way are reported in one message, and a breakdown is handed on.

Besides, a name can be looked up to see which scalar it most likely means.  `run` takes a command
line as a whole.

The files are asked for in any monad, so that what a check does can be said of a tree of files as
well as of the files of a system.
-/
import EntitySchema.Command.Log
import EntitySchema.Command.Request
import EntitySchema.Json.Basic
import EntitySchema.Manifest
import EntitySchema.Report
import EntitySchema.Schema
import EntitySchema.Suggestion

namespace EntitySchema.Command

/-- What a command leaves behind: its exit status and what it writes. -/
structure Outcome where
  exit : Nat
  stdout : String
  stderr : String
  deriving DecidableEq

/-- Where a command runs: its directory, and whether its output is shown in colours. -/
structure Setting where
  directory : Path
  colored : Bool

/-- The report of an error. -/
def errorText (message : String) : String := "Error: " ++ message ++ "\n"

/-- The outcome of an error, with the text that reports it. -/
def failure (report : String) : Outcome := ⟨1, "", report⟩

/-- An outcome with a log in front of what else is written about it. -/
def Outcome.logged (outcome : Outcome) (verbose : Bool) (log : List LogEntry) : Outcome :=
  { outcome with stderr := logLines verbose log ++ outcome.stderr }

/-! ## Finding the schema -/

/-- Where a schema is, and what has been done to find it. -/
structure Located where
  path : Path
  log : List LogEntry

/-- Whether a path is taken for a manifest. -/
def isManifest (path : Path) : Bool := path.suffix == "yaml" || path.suffix == "yml"

section Files

variable [Libraries] {m : Type → Type} [Monad m]

/-- The schema of the manifest at a path. -/
def schemaOfManifest (files : Files m) (path : Path) : m (Except ManifestFailure Located) := do
  match ← Manifest.load files path with
  | .error failure => return .error failure
  | .ok manifest =>
      match Manifest.schemaPath path manifest with
      | .error breakdown => return .error (.broken breakdown)
      | .ok schema => return .ok ⟨schema, [.manifestLoaded path manifest.file.shown]⟩

/-- The schema that a file stands for. -/
def schemaOfFile (files : Files m) (path : Path) : m (Except ManifestFailure Located) :=
  if isManifest path then schemaOfManifest files path else return .ok ⟨path, []⟩

/-- The schema that something at a path stands for. -/
def locate (files : Files m) (path : Path) (status : FileStatus) :
    m (Except ManifestFailure Located) := do
  match status with
  | .absent | .file => schemaOfFile files path
  | .directory =>
      let manifest := path.child Manifest.fileName
      match ← files.status manifest with
      | .absent => return .error (.rejected (.absent path))
      | .hidden fault => return .error (.broken (.hidden manifest fault))
      | .file | .directory => schemaOfFile files manifest
  | .hidden fault => return .error (.broken (.hidden path fault))

end Files

/-! ## Reporting -/

/-- A place in JSON. -/
def spanJson (span : Span) : Json :=
  .object [("start", .number span.start), ("end", .number span.stop)]

/-- A finding in JSON. -/
def findingJson (finding : Finding) : Json :=
  .object
    [ ("location", spanJson finding.location), ("entity", .string finding.entity),
      ("message", .string finding.message) ]

/-- The exit status for some findings. -/
def exitStatus (findings : List Finding) : Nat := if findings.isEmpty then 0 else 1

/-- The outcome that reports findings in JSON. -/
def jsonOutcome (findings : List Finding) : Outcome :=
  ⟨exitStatus findings, (Json.array (findings.map findingJson)).render ++ "\n", ""⟩

/-- The line with the number of findings. -/
def countLine (path : Path) (findings : List Finding) : String :=
  "Found " ++ toString findings.length ++ " issue(s) in " ++ path.toString ++ "."

/-- The outcome that reports findings in lines. -/
def lineOutcome (colored : Bool) (path : Path) (text : List Char) (findings : List Finding) :
    Outcome :=
  if findings.isEmpty then
    ⟨exitStatus findings, Color.green.paint colored "No issues found." ++ "\n", ""⟩
  else
    let lines := findings.map fun finding => finding.show colored text ++ "\n"
    let count := Color.red.paint colored (countLine path findings) ++ "\n"
    ⟨exitStatus findings, "", String.join lines ++ count⟩

/-- The outcome that reports the findings about the text of a schema. -/
def findingsOutcome (setting : Setting) (request : CheckRequest) (path : Path) (text : List Char)
    (findings : List Finding) : Outcome :=
  if request.json then jsonOutcome findings
  else lineOutcome setting.colored path text findings

/-- The outcome for the text of a schema. -/
def textOutcome (setting : Setting) (request : CheckRequest) (path : Path) (text : List Char) :
    Outcome :=
  let loaded := .schemaLoaded path text.length
  match Schema.parse text with
  | .error error =>
      (failure (errorText error.message)).logged request.verbose [loaded]
  | .ok definitions =>
      let findings := validate definitions
      let log :=
        [ loaded, .schemaParsed definitions.length,
          .validated definitions.length findings.length ]
      (findingsOutcome setting request path text findings).logged request.verbose log

/-- The outcome for what has been read of a schema. -/
def schemaOutcome (setting : Setting) (request : CheckRequest) (path : Path)
    (content : Except SchemaError (List Char)) : Outcome :=
  match content with
  | .error error => failure (errorText error.message)
  | .ok text => textOutcome setting request path text

/-- The outcome for a manifest that is not accepted. -/
def manifestOutcome [Libraries] (error : ManifestError) : Outcome :=
  failure (errorText error.message)

/-- The outcome that shows the scalar that a name most likely means. -/
def suggestOutcome (name : String) : Outcome :=
  match Suggestion.suggest name with
  | some scalar => ⟨0, scalar.name ++ "\n", ""⟩
  | none => failure ("No suggestion for '" ++ name ++ "'.\n")

section Files

variable {m : Type → Type} [Monad m]

/-- The outcome for a schema that has been found. -/
def checkLocated (files : Files m) (setting : Setting) (request : CheckRequest)
    (located : Located) : m Outcome := do
  let content ← Schema.load files located.path
  let log := located.log ++ [.validating located.path]
  return (schemaOutcome setting request located.path content).logged request.verbose log

variable [Libraries]

/-- Checks what is at a path. -/
def checkPath (files : Files m) (setting : Setting) (request : CheckRequest) (path : Path) :
    m (Except Breakdown Outcome) := do
  match ← files.status path with
  | .absent =>
      return .ok (failure (errorText ("path '" ++ path.toString ++ "' does not exist.")))
  | status =>
      match ← locate files path status with
      | .error (.rejected error) => return .ok (manifestOutcome error)
      | .error (.broken breakdown) => return .error breakdown
      | .ok located => return .ok (← checkLocated files setting request located)

/-- Checks the path that a request names. -/
def check (files : Files m) (setting : Setting) (request : CheckRequest) :
    m (Except Breakdown Outcome) :=
  match setting.directory.join? request.path with
  | none => return .error (.unusablePath .null)
  | some path => checkPath files setting request path.resolve

/-! ## The command line -/

/-- Meets a request. -/
def answer (files : Files m) (setting : Setting) : Request → m (Except Breakdown Outcome)
  | .help topic => return .ok ⟨0, topic.help, ""⟩
  | .suggest name => return .ok (suggestOutcome name)
  | .check request => check files setting request

/-- Runs a command line. -/
def run (files : Files m) (setting : Setting) (texts : List String) :
    m (Except Breakdown Outcome) :=
  match Request.ofTexts texts with
  | .error error => return .ok ⟨2, "", error.report⟩
  | .ok request => answer files setting request

end Files

end EntitySchema.Command
