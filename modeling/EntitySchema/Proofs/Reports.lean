/-
# `EntitySchema.Proofs.Reports` — the command line says what validation says

A check of a schema file in lines and one in JSON tell the same: the error, if there is one, and
otherwise the findings, to which the exit status belongs.  In JSON they are there as data, and nothing
is lost on the way, whatever characters names and messages have; in lines each of them has its line, in
order, and the number of them has the last.
-/
import EntitySchema.Proofs.Checking
import EntitySchema.Proofs.JsonReader

namespace EntitySchema.Command

variable {tree : FileTree} {setting : Setting} {argument : String} {path : Path}
  {text : List Char} {findings : List Finding}

/-- The outcome of a failed check, as it is written. -/
def errorOutcome (message : String) : Outcome := ⟨1, "", "Error: " ++ message ++ "\n"⟩

/-- The two outcomes that tell of some findings about the text of a schema. -/
structure Tells (path : Path) (text : List Char) (findings : List Finding) (lines json : Outcome) :
    Prop where
  sameExit : lines.exit = json.exit
  exit : json.exit = if findings = [] then 0 else 1
  jsonStdout : JsonReader.decode json.stdout = some (.array (findings.map findingJson))
  jsonStderr : json.stderr = ""
  found : findings ≠ [] → lines.stdout = ""
    ∧ lines.stderr = String.join (findings.map fun finding => finding.show false text ++ "\n")
      ++ ("Found " ++ toString findings.length ++ " issue(s) in " ++ path.toString ++ ".\n")
  none : findings = [] → lines.stdout = "No issues found.\n" ∧ lines.stderr = ""

theorem exitStatus_eq : exitStatus findings = if findings = [] then 0 else 1 := by
  cases findings with
  | nil => rfl
  | cons finding rest => rfl

theorem tells_outcomes (path : Path) (text : List Char) (findings : List Finding) :
    Tells path text findings (lineOutcome false path text findings) (jsonOutcome findings) where
  sameExit := by
    rw [lineOutcome]
    split
    · rfl
    · rfl
  exit := exitStatus_eq
  jsonStdout := JsonReader.decode_render _
  jsonStderr := rfl
  found := by
    intro hne
    have hempty : ¬ findings.isEmpty = true := fun h => hne (List.isEmpty_iff.mp h)
    rw [lineOutcome, if_neg hempty]
    refine ⟨rfl, ?_⟩
    show _ ++ (countLine path findings ++ "\n") = _
    rw [countLine, String.append_assoc]
    rfl
  none := by
    rintro rfl
    exact ⟨rfl, rfl⟩

/-- The check of a file that is no manifest is the check of a schema. -/
theorem check_of_file {json : Bool} (hpath : setting.directory.join? argument = some path)
    (hfile : tree.status path.resolve = .file) (hsuffix : isManifest path.resolve = false) :
    check tree.files setting ⟨argument, json, false⟩
      = .ok (checkLocated tree.files setting ⟨argument, json, false⟩ ⟨path.resolve, []⟩) := by
  rw [check, hpath]
  exact checkPath_of_hasSchema (.itself hfile hsuffix)

/-- **The command line, in lines and in JSON, agrees with validation.**  For a file that is no manifest,
both checks fail with the error of its validation, or both tell of its findings. -/
theorem check_tells (hcolor : setting.colored = false)
    (hpath : setting.directory.join? argument = some path)
    (hfile : tree.status path.resolve = .file) (hsuffix : isManifest path.resolve = false) :
    match Schema.validateFile tree.files path.resolve with
    | .error error =>
        check tree.files setting ⟨argument, false, false⟩ = .ok (errorOutcome error.message)
          ∧ check tree.files setting ⟨argument, true, false⟩ = .ok (errorOutcome error.message)
    | .ok findings =>
        ∃ text lines json, tree.Holds path.resolve text
          ∧ check tree.files setting ⟨argument, false, false⟩ = .ok lines
          ∧ check tree.files setting ⟨argument, true, false⟩ = .ok json
          ∧ Tells path.resolve text findings lines json := by
  rw [check_of_file hpath hfile hsuffix, check_of_file hpath hfile hsuffix]
  cases hvalidate : Schema.validateFile tree.files path.resolve with
  | error error =>
      have houtcome (json : Bool) :
          checkLocated tree.files setting ⟨argument, json, false⟩ ⟨path.resolve, []⟩
            = errorOutcome error.message := by
        obtain ⟨log, hlocated⟩ :=
          checkLocated_of_validateFile_eq_error setting ⟨argument, json, false⟩ ⟨path.resolve, []⟩ hvalidate
        rw [hlocated]
        exact logged_false
      exact ⟨congrArg _ (houtcome false), congrArg _ (houtcome true)⟩
  | ok findings =>
      obtain ⟨text, _, hload, hlines⟩ :=
        checkLocated_of_validateFile_eq_ok setting ⟨argument, false, false⟩ ⟨path.resolve, []⟩ hvalidate
      obtain ⟨_, _, _, hjson⟩ :=
        checkLocated_of_validateFile_eq_ok setting ⟨argument, true, false⟩ ⟨path.resolve, []⟩ hvalidate
      refine ⟨text, lineOutcome false path.resolve text findings, jsonOutcome findings,
        load_eq_ok_iff.mp hload, ?_, ?_, tells_outcomes path.resolve text findings⟩
      · have hlineOutcome : findingsOutcome setting ⟨argument, false, false⟩ path.resolve text findings
            = lineOutcome false path.resolve text findings := by
          show lineOutcome setting.colored path.resolve text findings = _
          rw [hcolor]
        rw [hlines, ← hlineOutcome]
        exact congrArg _ logged_false
      · rw [hjson]
        exact congrArg _ logged_false

/-- A directory with a schema in which an entity refers back to a field of a strange name. -/
def strangeField : FileTree :=
  .directory
    [("schema.graphql", .file (Text.Utf8.encode
      "type A @entity \x7b id: ID! a: A @derivedFrom(field: \"\\t😀\") \x7d".toList))]

/-- What is said of the strange name reaches both runs, and is read back from the second. -/
theorem check_tells_strangeField :
    ∃ lines json, check strangeField.files ⟨⟨[]⟩, false⟩ ⟨"schema.graphql", false, false⟩ = .ok lines
      ∧ check strangeField.files ⟨⟨[]⟩, false⟩ ⟨"schema.graphql", true, false⟩ = .ok json
      ∧ lines.exit = 1 ∧ json.exit = 1
      ∧ JsonReader.decode json.stdout = some (.array
        [.object
          [ ("location", .object [("start", .number 30), ("end", .number 56)]),
            ("entity", .string "A"),
            ("message",
              .string "Field 'a': @derivedFrom field '\t😀' does not exist on type 'A'") ]]) := by
  have hshown : (Schema.validateFile strangeField.files ⟨["schema.graphql"]⟩).toOption.map
        (·.map fun finding => (finding.location, finding.entity, finding.message))
      = some [(⟨30, 56⟩, "A", "Field 'a': @derivedFrom field '\t😀' does not exist on type 'A'")] := by
    decide +kernel
  have htells := @check_tells strangeField ⟨⟨[]⟩, false⟩ "schema.graphql" ⟨["schema.graphql"]⟩ rfl
    (by decide +kernel) (by decide +kernel) (by decide +kernel)
  replace htells : match Schema.validateFile strangeField.files ⟨["schema.graphql"]⟩ with
    | .error _ => _ | .ok _ => _ := htells
  cases hvalidate : Schema.validateFile strangeField.files ⟨["schema.graphql"]⟩ with
  | error error =>
      rw [hvalidate] at hshown
      cases hshown
  | ok findings =>
      rw [hvalidate] at hshown htells
      obtain ⟨_, lines, json, _, hlines, hjson, htold⟩ := htells
      have hfindings :
          (findings.map fun finding => (finding.location, finding.entity, finding.message)) = [_] :=
        Option.some.inj hshown
      have hne : findings ≠ [] := by
        rintro rfl
        cases hfindings
      have hexit : json.exit = 1 := by rw [htold.exit, if_neg hne]
      refine ⟨lines, json, hlines, hjson, htold.sameExit.trans hexit, hexit, ?_⟩
      have hmembers : findings.map findingJson
          = (findings.map fun finding => (finding.location, finding.entity, finding.message)).map
            fun (location, entity, message) =>
              .object
                [ ("location", spanJson location), ("entity", .string entity),
                  ("message", .string message) ] := by
        rw [List.map_map]
        rfl
      rw [htold.jsonStdout, hmembers, hfindings]
      rfl

end EntitySchema.Command
