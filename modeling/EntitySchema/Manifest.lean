/-
# `EntitySchema.Manifest` — the manifest of a subgraph

A manifest is a YAML mapping.  Of its entries three count: the version of the manifest format, a
description, and the schema, a mapping that names the file of the schema.  Two of them may also be
found under a second name, which counts only if the first one is absent.  Strings are taken as they
are, and nothing else is turned into one.  Every entry that is not as it should be is a problem,
and all problems are reported together.

Where a manifest is not accepted, this is reported as a `ManifestError`.  A few things are not:
bytes that are no text, exceptions in reading YAML, strings that cannot be a path, and a system that
does not say what is at a path; these are a `Breakdown` and end whatever was to be done.

Two libraries have a part in this, one that reads YAML and one that words problems.  What they are
asked for makes up the class `Libraries`, so that it can be said what holds whatever they answer; the
instance at the end is what is used.
-/
import EntitySchema.Files.Tree
import EntitySchema.Text.Utf8
import EntitySchema.Yaml.Value

namespace EntitySchema

/-- What a manifest says. -/
structure Manifest where
  specVersion : Option Text.Str
  description : Option Text.Str
  /-- The path of the schema, as it is written. -/
  file : Text.Str
  deriving DecidableEq

/-! ## Problems -/

/-- What can be wrong with an entry. -/
inductive ProblemKind where
  | missing
  | notAString
  | notAReference
  deriving DecidableEq

/-- The name of a kind of problem. -/
def ProblemKind.name : ProblemKind → String
  | .missing => "missing"
  | .notAString => "string_type"
  | .notAReference => "model_type"

/-- The wording of a kind of problem. -/
def ProblemKind.message : ProblemKind → String
  | .missing => "Field required"
  | .notAString => "Input should be a valid string"
  | .notAReference => "Input should be a valid dictionary or instance of SchemaReference"

/-- A problem: the keys that lead to the entry, and what is wrong with it. -/
structure Problem where
  place : List String
  kind : ProblemKind
  deriving DecidableEq

/-! ## Libraries -/

/-- What libraries are asked for: the value that a text of YAML writes, and in words, why a text has
none and what the problems of the manifest at a path are.  A string in a value is whatever passes for
one. -/
class Libraries where
  value : List Char → Except Yaml.Fault Yaml.Value
  malformed : List Char → String
  invalid : Path → List Problem → String

/-! ## Errors -/

/-- Why a manifest is not accepted. -/
inductive ManifestError where
  /-- A directory has no manifest. -/
  | absent (directory : Path)
  /-- The file cannot be read. -/
  | unreadable (path : Path) (fault : FileFault)
  /-- The text is no YAML, with the words for it. -/
  | malformed (path : Path) (wording : String)
  /-- The value is no mapping. -/
  | notAMapping (path : Path)
  /-- Some entries are not as they should be. -/
  | invalid (path : Path) (problems : List Problem)

/-- What ends a check without a report. -/
inductive Breakdown where
  /-- A string is asked for as a path and cannot be one. -/
  | unusablePath (fault : PathFault)
  /-- The system does not say what is at a path. -/
  | hidden (path : Path) (fault : FileFault)
  /-- The bytes of the manifest are no text. -/
  | undecodable (fault : Text.Utf8.Fault)
  /-- An exception in reading the text of the manifest. -/
  | raised (exception : Yaml.Exception)

/-- The wording of a breakdown. -/
def Breakdown.message : Breakdown → String
  | .unusablePath fault => fault.message
  | .hidden path fault => fault.message path
  | .undecodable fault => fault.message
  | .raised exception => exception.message

/-- Why there is no manifest. -/
inductive ManifestFailure where
  | rejected (error : ManifestError)
  | broken (breakdown : Breakdown)

namespace Manifest

/-- The name of the manifest in a directory. -/
def fileName : String := "subgraph.yaml"

/-! ## The entries that count -/

/-- The names under which an entry may be found; the first of them names it where it is missing. -/
structure Key where
  name : String
  other : Option String

/-- The key of the version of the format. -/
def specVersionKey : Key := ⟨"specVersion", some "spec_version"⟩

/-- The key of the description. -/
def descriptionKey : Key := ⟨"description", none⟩

/-- The key of the schema. -/
def schemaKey : Key := ⟨"schema", some "schema_ref"⟩

/-- The key of the path in the entry of the schema. -/
def fileKey : String := "file"

/-- The entries of a mapping. -/
abbrev Entries := List (Yaml.Value × Yaml.Value)

/-- The value of a key, and the name under which it is found. -/
def Key.find? (key : Key) (entries : Entries) : Option (String × Yaml.Value) :=
  (key.name :: key.other.toList).findSome? fun name =>
    (Yaml.Value.find? entries name).map (name, ·)

/-- The value of a key that may be absent or nothing, and is a string otherwise. -/
def optionalString (key : Key) (entries : Entries) : Except Problem (Option Text.Str) :=
  match key.find? entries with
  | none | some (_, .null) => .ok none
  | some (_, .string text) => .ok (some text)
  | some (name, _) => .error ⟨[name], .notAString⟩

/-- The path of the schema. -/
def schemaFile (entries : Entries) : Except Problem Text.Str :=
  match schemaKey.find? entries with
  | none => .error ⟨[schemaKey.name], .missing⟩
  | some (name, .mapping inner) =>
      match Yaml.Value.find? inner fileKey with
      | some (.string text) => .ok text
      | some _ => .error ⟨[name, fileKey], .notAString⟩
      | none => .error ⟨[name, fileKey], .missing⟩
  | some (name, _) => .error ⟨[name], .notAReference⟩

/-- The problem that takes the place of a value. -/
def problem? {α : Type} : Except Problem α → Option Problem
  | .ok _ => none
  | .error problem => some problem

/-- The manifest that entries make up, or all of their problems. -/
def ofEntries (entries : Entries) : Except (List Problem) Manifest :=
  let specVersion := optionalString specVersionKey entries
  let description := optionalString descriptionKey entries
  let file := schemaFile entries
  match specVersion, description, file with
  | .ok specVersion, .ok description, .ok file => .ok ⟨specVersion, description, file⟩
  | _, _, _ =>
      .error ((problem? specVersion).toList ++ (problem? description).toList
        ++ (problem? file).toList)

/-! ## Reading -/

/-- The manifest that a value makes up, for the report of what is wrong the path of its file. -/
def ofValue (path : Path) : Yaml.Value → Except ManifestError Manifest
  | .mapping entries => (ofEntries entries).mapError (.invalid path)
  | .null | .string _ | .other => .error (.notAMapping path)

/-- The path of the schema of a manifest: what the manifest says, seen from its directory. -/
def schemaPath (path : Path) (manifest : Manifest) : Except Breakdown Path :=
  (path.parent.ofStr manifest.file).mapError .unusablePath

variable [Libraries]

/-- The manifest that a text writes. -/
def ofText (path : Path) (text : List Char) : Except ManifestFailure Manifest :=
  match Libraries.value text with
  | .error .malformed => .error (.rejected (.malformed path (Libraries.malformed text)))
  | .error (.raised exception) => .error (.broken (.raised exception))
  | .ok value => (ofValue path value).mapError .rejected

/-- The manifest that the bytes of a file write. -/
def ofBytes (path : Path) (bytes : List UInt8) : Except ManifestFailure Manifest :=
  match Text.ofBytes bytes with
  | .error fault => .error (.broken (.undecodable fault))
  | .ok text => ofText path text

/-- The manifest in the file at a path. -/
def load {m : Type → Type} [Monad m] (files : Files m) (path : Path) :
    m (Except ManifestFailure Manifest) := do
  match ← files.read path with
  | .error fault => return .error (.rejected (.unreadable path fault))
  | .ok bytes => return ofBytes path bytes

end Manifest

namespace ManifestError

/-- The wording of an error. -/
def message [Libraries] : ManifestError → String
  | .absent directory => "No " ++ Manifest.fileName ++ " found in '" ++ directory.toString ++ "'"
  | .unreadable path fault =>
      "Cannot read manifest '" ++ path.toString ++ "': " ++ fault.message path
  | .malformed path wording => "Invalid YAML in manifest '" ++ path.toString ++ "': " ++ wording
  | .notAMapping path =>
      "Invalid manifest '" ++ path.toString ++ "': manifest must be a YAML mapping"
  | .invalid path problems =>
      "Invalid manifest '" ++ path.toString ++ "': " ++ Libraries.invalid path problems

end ManifestError

/-! ## The libraries that are used -/

/-- A problem in lines of its own. -/
def Problem.lines (problem : Problem) : String :=
  "\n" ++ ".".intercalate problem.place ++ "\n  " ++ problem.kind.message ++ " [type="
    ++ problem.kind.name ++ "]"

/-- A number of problems, and then each of them. -/
def Problem.report (problems : List Problem) : String :=
  toString problems.length ++ " validation error" ++ (if problems.length = 1 then "" else "s")
    ++ " for SubgraphManifest" ++ String.join (problems.map Problem.lines)

/-- The depth to which a manifest is looked at: its entries, and those of the schema. -/
def Manifest.depth : Nat := 2

/-- YAML is read as far as a manifest is looked at, and only strings pass for strings. -/
instance : Libraries where
  value := Yaml.Value.ofText Manifest.depth
  malformed := fun _ => "the text is not well-formed"
  invalid := fun _ problems => Problem.report problems

end EntitySchema
