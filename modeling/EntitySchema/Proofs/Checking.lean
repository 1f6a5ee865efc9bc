/-
# `EntitySchema.Proofs.Checking` — what a check comes to

A path stands for a schema or for a manifest, and so does a directory with a manifest in it.
`HasManifest` and `HasSchema` say this of the files alone, whatever these are: nothing is assumed of
what they answer.  Where the schema has been found, the check says what the validation of its file
says; the log in front of that depends on the way, the rest does not.
-/
import EntitySchema.Command.Check
import EntitySchema.Proofs.Loading

namespace EntitySchema.Command

variable {files : Files Id} {path : Path} {setting : Setting} {request : CheckRequest}
  {located : Located}

/-! ## What a path stands for -/

/-- There is something at the path, and the system says so. -/
def IsThere (files : Files Id) (path : Path) : Prop :=
  files.status path = .file ∨ files.status path = .directory

theorem IsThere.ne_absent (h : IsThere files path) : files.status path ≠ .absent := by
  rcases h with hfile | hdirectory
  · rw [hfile]
    exact fun h => nomatch h
  · rw [hdirectory]
    exact fun h => nomatch h

/-- The manifest that a path stands for: itself, or the one in the directory that it is. -/
inductive HasManifest (files : Files Id) (path : Path) : Path → Prop
  | itself : files.status path = .file → isManifest path = true → HasManifest files path path
  | inside :
      files.status path = .directory → IsThere files (path.child Manifest.fileName) →
      HasManifest files path (path.child Manifest.fileName)

/-- The schema that a path stands for: itself, or the one that its manifest names. -/
inductive HasSchema [Libraries] (files : Files Id) (path : Path) : Located → Prop
  | itself : files.status path = .file → isManifest path = false → HasSchema files path ⟨path, []⟩
  | named {manifest : Manifest} {file schema : Path} :
      HasManifest files path file → Manifest.load files file = .ok manifest →
      Manifest.schemaPath file manifest = .ok schema →
      HasSchema files path ⟨schema, [.manifestLoaded file manifest.file.shown]⟩

/-! ## What a check leaves behind -/

theorem logLines_append {wanted : Bool} {log log' : List LogEntry} :
    logLines wanted (log ++ log') = logLines wanted log ++ logLines wanted log' := by
  cases wanted with
  | true =>
      show String.join ((log ++ log').map LogEntry.line) = _
      rw [List.map_append, String.join_append]
      rfl
  | false => rfl

theorem logged_logged {outcome : Outcome} {verbose : Bool} {log log' : List LogEntry} :
    (outcome.logged verbose log').logged verbose log = outcome.logged verbose (log ++ log') := by
  rw [Outcome.logged, Outcome.logged, Outcome.logged, logLines_append, String.append_assoc]

theorem logged_eq_self {outcome : Outcome} {verbose : Bool} {log : List LogEntry}
    (h : logLines verbose log = "") : outcome.logged verbose log = outcome := by
  rw [Outcome.logged, h, String.empty_append]

theorem logged_false {outcome : Outcome} {log : List LogEntry} :
    outcome.logged false log = outcome :=
  logged_eq_self rfl

theorem textOutcome_of_parse_eq_error (setting : Setting) (request : CheckRequest) (path : Path)
    {text : List Char} {error : SchemaError} (h : Schema.parse text = .error error) :
    ∃ log, textOutcome setting request path text
      = (failure (errorText error.message)).logged request.verbose log := by
  rw [textOutcome, h]
  exact ⟨_, rfl⟩

theorem textOutcome_of_parse_eq_ok (setting : Setting) (request : CheckRequest) (path : Path)
    {text : List Char} {definitions : List Definition} (h : Schema.parse text = .ok definitions) :
    ∃ log, textOutcome setting request path text
      = (findingsOutcome setting request path text (validate definitions)).logged
        request.verbose log := by
  rw [textOutcome, h]
  exact ⟨_, rfl⟩

/-- A schema that has been found fails with the error of its validation. -/
theorem checkLocated_of_validateFile_eq_error (setting : Setting) (request : CheckRequest)
    (located : Located) {error : SchemaError}
    (h : Schema.validateFile files located.path = .error error) :
    ∃ log, checkLocated files setting request located
      = (failure (errorText error.message)).logged request.verbose log := by
  show ∃ log, (schemaOutcome setting request located.path
    (Schema.load files located.path).run).logged _ _ = _
  rw [validateFile_eq] at h
  cases hload : (Schema.load files located.path).run with
  | error error' =>
      rw [hload] at h
      cases h
      exact ⟨_, rfl⟩
  | ok text =>
      rw [hload] at h
      cases hparse : Schema.parse text with
      | error error' =>
          simp only [hparse] at h
          cases h
          obtain ⟨log, houtcome⟩ :=
            textOutcome_of_parse_eq_error setting request located.path hparse
          rw [schemaOutcome, houtcome, logged_logged]
          exact ⟨_, rfl⟩
      | ok definitions =>
          simp only [hparse] at h
          cases h

/-- A schema that has been found is reported with the findings of its validation. -/
theorem checkLocated_of_validateFile_eq_ok (setting : Setting) (request : CheckRequest)
    (located : Located) {findings : List Finding}
    (h : Schema.validateFile files located.path = .ok findings) :
    ∃ text log, Schema.load files located.path = .ok text
      ∧ checkLocated files setting request located
        = (findingsOutcome setting request located.path text findings).logged
          request.verbose log := by
  rw [validateFile_eq] at h
  cases hload : (Schema.load files located.path).run with
  | error error =>
      rw [hload] at h
      cases h
  | ok text =>
      rw [hload] at h
      cases hparse : Schema.parse text with
      | error error =>
          simp only [hparse] at h
          cases h
      | ok definitions =>
          simp only [hparse] at h
          cases h
          obtain ⟨log, houtcome⟩ :=
            textOutcome_of_parse_eq_ok setting request located.path hparse
          refine ⟨text, (located.log ++ [.validating located.path]) ++ log, hload, ?_⟩
          rw [← logged_logged, ← houtcome]
          show (schemaOutcome setting request located.path
            (Schema.load files located.path).run).logged _ _ = _
          rw [hload, schemaOutcome]

theorem isManifest_child_fileName : isManifest (path.child Manifest.fileName) = true := by
  have hname : (path.child Manifest.fileName).fileName = Manifest.fileName := by
    rw [Path.fileName, Path.child, List.getLast?_concat]
    rfl
  rw [isManifest, Path.suffix, hname]
  decide

theorem isThere_of_hasManifest {file : Path} (h : HasManifest files path file) :
    IsThere files path := by
  cases h with
  | itself hpath _ => exact .inl hpath
  | inside hpath _ => exact .inr hpath

variable [Libraries]

theorem isThere_of_hasSchema (h : HasSchema files path located) : IsThere files path := by
  cases h with
  | itself hpath _ => exact .inl hpath
  | named hfile _ _ => exact isThere_of_hasManifest hfile

theorem locate_directory :
    locate files path .directory
      = match (files.status (path.child Manifest.fileName)).run with
        | .absent => .error (.rejected (.absent path))
        | .hidden fault => .error (.broken (.hidden (path.child Manifest.fileName) fault))
        | .file | .directory => schemaOfManifest files (path.child Manifest.fileName) := by
  have hfile : schemaOfFile files (path.child Manifest.fileName)
      = schemaOfManifest files (path.child Manifest.fileName) := by
    rw [schemaOfFile, if_pos isManifest_child_fileName]
  rw [← hfile]
  show (match (files.status (path.child Manifest.fileName)).run with
    | .absent => _ | .hidden _ => _ | .file | .directory => _) = _
  cases (files.status (path.child Manifest.fileName)).run with
  | absent => rfl
  | file => rfl
  | directory => rfl
  | hidden fault => rfl

theorem locate_of_hasManifest {file : Path} (h : HasManifest files path file) :
    locate files path (files.status path) = schemaOfManifest files file := by
  cases h with
  | itself hpath hmanifest =>
      rw [hpath]
      show schemaOfFile files path = _
      rw [schemaOfFile, if_pos hmanifest]
  | inside hpath hthere =>
      rw [hpath]
      refine locate_directory.trans ?_
      rcases hthere with hfile | hdirectory
      · rw [hfile]
        rfl
      · rw [hdirectory]
        rfl

theorem schemaOfManifest_of_load_eq_ok {file : Path} {manifest : Manifest}
    (h : Manifest.load files file = .ok manifest) :
    schemaOfManifest files file
      = match Manifest.schemaPath file manifest with
        | .error breakdown => .error (.broken breakdown)
        | .ok schema => .ok ⟨schema, [.manifestLoaded file manifest.file.shown]⟩ := by
  unfold schemaOfManifest
  rw [h]
  show (match Manifest.schemaPath file manifest with | .error _ => _ | .ok _ => _) = _
  cases Manifest.schemaPath file manifest with
  | error breakdown => rfl
  | ok schema => rfl

theorem locate_of_hasSchema (h : HasSchema files path located) :
    locate files path (files.status path) = .ok located := by
  cases h with
  | itself hpath hmanifest =>
      rw [hpath]
      show schemaOfFile files path = _
      rw [schemaOfFile, if_neg (Bool.eq_false_iff.mp hmanifest)]
      rfl
  | named hfile hload hschema =>
      rw [locate_of_hasManifest hfile, schemaOfManifest_of_load_eq_ok hload, hschema]

theorem checkPath_of_absent (h : files.status path = .absent) :
    checkPath files setting request path
      = .ok (failure (errorText ("path '" ++ path.toString ++ "' does not exist."))) := by
  unfold checkPath
  rw [h]
  rfl

/-- What is done at a path of which anything else is said. -/
theorem checkPath_eq (h : files.status path ≠ .absent) :
    checkPath files setting request path
      = match (locate files path (files.status path)).run with
        | .error (.rejected error) => .ok (manifestOutcome error)
        | .error (.broken breakdown) => .error breakdown
        | .ok located => .ok (checkLocated files setting request located).run := by
  obtain ⟨status, hstatus⟩ : ∃ status, files.status path = status := ⟨_, rfl⟩
  unfold checkPath
  rw [hstatus]
  cases status with
  | absent => exact absurd hstatus h
  | file | directory | hidden _ =>
      show ((pure _ : Id FileStatus) >>= _) = _
      rw [pure_bind]
      dsimp only
      generalize locate files path _ = result
      rcases result with (error | breakdown) | located
      · rfl
      · rfl
      · rfl

theorem checkPath_of_hasSchema (h : HasSchema files path located) :
    checkPath files setting request path
      = .ok (checkLocated files setting request located) := by
  rw [checkPath_eq (isThere_of_hasSchema h).ne_absent, locate_of_hasSchema h]
  rfl

end EntitySchema.Command
