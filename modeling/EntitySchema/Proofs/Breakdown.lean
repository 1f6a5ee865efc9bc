/-
# `EntitySchema.Proofs.Breakdown` — how a check ends

A check ends in one of three ways.  It fails with one message that says why, it reports the findings
about a schema, or it breaks down: an error passes through that nothing on the way reports.

`Fails`, `Validates` and `Breaks` say when each of these happens, and `ends` that there is no fourth
way.  They speak of what the files and the libraries answer, and hold whatever this is.  Every error of
the schema is reported.  Those of the manifest are meant to be, but some slip through: bytes that are
no text, an exception in reading YAML, and a string that cannot be a path, in the name of the schema as
in the argument.  And a system may refuse to say what is at a path.  `check_eq_error_iff` says that
these are all.
-/
import EntitySchema.Proofs.Checking
import EntitySchema.Proofs.SchemaPath

namespace EntitySchema

section Ways

variable [Libraries] {files : Files Id} {path : Path}

/-! ## Reading a manifest -/

/-- The file at a path can be read and its bytes write a text, its line ends folded. -/
def Files.Writes (files : Files Id) (path : Path) (text : List Char) : Prop :=
  ∃ written, files.read path = .ok (Text.Utf8.encode written) ∧ Text.foldLineEnds written = text

/-- The errors in a manifest that are not reported. -/
inductive Manifest.Breaks (files : Files Id) (path : Path) : Breakdown → Prop
  | undecodable {bytes : List UInt8} {fault : Text.Utf8.Fault} :
      files.read path = .ok bytes → Text.Utf8.decode bytes = .error fault →
      Breaks files path (.undecodable fault)
  | raised {text : List Char} {exception : Yaml.Exception} :
      files.Writes path text → Libraries.value text = .error (.raised exception) →
      Breaks files path (.raised exception)

namespace Manifest

theorem load_eq :
    Manifest.load files path
      = match (files.read path).run with
        | .error fault => .error (.rejected (.unreadable path fault))
        | .ok bytes => ofBytes path bytes := by
  show (match (files.read path).run with | .error _ => _ | .ok _ => _) = _
  cases (files.read path).run with
  | error fault => rfl
  | ok bytes => rfl

theorem ofText_eq_broken_iff {text : List Char} {breakdown : Breakdown} :
    ofText path text = .error (.broken breakdown)
      ↔ ∃ exception, Libraries.value text = .error (.raised exception)
        ∧ breakdown = .raised exception := by
  rw [ofText]
  cases Libraries.value text with
  | error fault =>
      cases fault with
      | malformed =>
          refine ⟨fun h => (nomatch h), ?_⟩
          rintro ⟨_, h, _⟩
          cases h
      | raised exception =>
          constructor
          · intro h
            cases h
            exact ⟨exception, rfl, rfl⟩
          · rintro ⟨_, h, rfl⟩
            cases h
            rfl
  | ok value =>
      show (ofValue path value).mapError ManifestFailure.rejected = _ ↔ _
      refine iff_of_false ?_ ?_
      · cases ofValue path value with
        | error error => exact fun h => (nomatch h)
        | ok manifest => exact fun h => (nomatch h)
      · rintro ⟨_, h, _⟩
        cases h

/-- A manifest whose file writes a text is the manifest that the text writes. -/
theorem load_of_writes {text : List Char} (h : files.Writes path text) :
    Manifest.load files path = ofText path text := by
  obtain ⟨written, hread, hfold⟩ := h
  rw [load_eq, hread]
  show ofBytes path _ = _
  rw [ofBytes, ofBytes_eq_ok_iff.mpr ⟨written, rfl, hfold⟩]

/-- The bytes of a file break down if they are no text, or if the text that they write does. -/
theorem ofBytes_eq_broken_iff {bytes : List UInt8} {breakdown : Breakdown} :
    ofBytes path bytes = .error (.broken breakdown)
      ↔ (∃ fault, Text.Utf8.decode bytes = .error fault ∧ breakdown = .undecodable fault)
        ∨ ∃ written, bytes = Text.Utf8.encode written
          ∧ ofText path (Text.foldLineEnds written) = .error (.broken breakdown) := by
  rw [ofBytes, Text.ofBytes]
  simp only [← Text.Utf8.decode_eq_ok_iff]
  cases Text.Utf8.decode bytes with
  | error fault =>
      constructor
      · intro h
        cases h
        exact .inl ⟨fault, rfl, rfl⟩
      · rintro (⟨_, h, rfl⟩ | ⟨_, h, -⟩)
        · cases h
          rfl
        · cases h
  | ok written =>
      constructor
      · exact fun h => .inr ⟨written, rfl, h⟩
      · rintro (⟨_, h, -⟩ | ⟨_, h, htext⟩)
        · cases h
        · cases h
          exact htext

/-- Loading a manifest breaks down on bytes that are no text and on exceptions, and on nothing else. -/
theorem load_eq_broken_iff {breakdown : Breakdown} :
    Manifest.load files path = .error (.broken breakdown) ↔ Breaks files path breakdown := by
  constructor
  · intro h
    rw [load_eq] at h
    cases hread : (files.read path).run with
    | error fault =>
        rw [hread] at h
        cases h
    | ok bytes =>
        rw [hread] at h
        rcases ofBytes_eq_broken_iff.mp h with ⟨fault, hdecode, rfl⟩ | ⟨written, rfl, htext⟩
        · exact .undecodable hread hdecode
        · obtain ⟨exception, hvalue, rfl⟩ := ofText_eq_broken_iff.mp htext
          exact .raised ⟨written, hread, rfl⟩ hvalue
  · intro h
    cases h with
    | undecodable hread hdecode =>
        rw [load_eq, hread]
        exact ofBytes_eq_broken_iff.mpr (.inl ⟨_, hdecode, rfl⟩)
    | raised hwrites hvalue =>
        rw [load_of_writes hwrites]
        exact ofText_eq_broken_iff.mpr ⟨_, hvalue, rfl⟩

omit [Libraries] in
theorem schemaPath_eq_error_iff {manifest : Manifest} {breakdown : Breakdown} :
    schemaPath path manifest = .error breakdown
      ↔ ∃ fault, path.parent.ofStr manifest.file = .error fault
        ∧ breakdown = .unusablePath fault := by
  rw [schemaPath]
  cases path.parent.ofStr manifest.file with
  | ok schema =>
      refine iff_of_false (fun h => nomatch h) ?_
      rintro ⟨_, h, _⟩
      cases h
  | error fault =>
      constructor
      · intro h
        cases h
        exact ⟨fault, rfl, rfl⟩
      · rintro ⟨_, h, rfl⟩
        cases h
        rfl

end Manifest

/-! ## The ways to end -/

namespace Command

variable {setting : Setting} {request : CheckRequest}

/-- The check of a path fails, with a message. -/
inductive Fails (files : Files Id) (path : Path) : String → Prop
  | absent :
      files.status path = .absent →
      Fails files path ("path '" ++ path.toString ++ "' does not exist.")
  | noManifest :
      files.status path = .directory →
      files.status (path.child Manifest.fileName) = .absent →
      Fails files path (ManifestError.absent path).message
  | manifest {file : Path} {error : ManifestError} :
      HasManifest files path file → Manifest.load files file = .error (.rejected error) →
      Fails files path error.message
  | schema {located : Located} {error : SchemaError} :
      HasSchema files path located → Schema.validateFile files located.path = .error error →
      Fails files path error.message

/-- The check of a path reports findings. -/
inductive Validates (files : Files Id) (path : Path) : List Finding → Prop
  | schema {located : Located} {findings : List Finding} :
      HasSchema files path located → Schema.validateFile files located.path = .ok findings →
      Validates files path findings

/-- The check of a path breaks down. -/
inductive Breaks (files : Files Id) (path : Path) : Breakdown → Prop
  | hidden {fault : FileFault} :
      files.status path = .hidden fault → Breaks files path (.hidden path fault)
  | hiddenManifest {fault : FileFault} :
      files.status path = .directory →
      files.status (path.child Manifest.fileName) = .hidden fault →
      Breaks files path (.hidden (path.child Manifest.fileName) fault)
  | manifest {file : Path} {breakdown : Breakdown} :
      HasManifest files path file → Manifest.Breaks files file breakdown →
      Breaks files path breakdown
  | named {file : Path} {manifest : Manifest} {fault : PathFault} :
      HasManifest files path file → Manifest.load files file = .ok manifest →
      file.parent.ofStr manifest.file = .error fault → Breaks files path (.unusablePath fault)

/-- The check of a path ends in some way. -/
def Ends (files : Files Id) (path : Path) : Prop :=
  (∃ breakdown, Breaks files path breakdown) ∨ (∃ message, Fails files path message)
    ∨ ∃ findings, Validates files path findings

theorem ends_of_hasSchema {located : Located} (h : HasSchema files path located) :
    Ends files path := by
  cases hvalidate : (Schema.validateFile files located.path).run with
  | error error => exact .inr (.inl ⟨_, .schema h hvalidate⟩)
  | ok findings => exact .inr (.inr ⟨findings, .schema h hvalidate⟩)

theorem ends_of_hasManifest {file : Path} (h : HasManifest files path file) : Ends files path := by
  cases hload : (Manifest.load files file).run with
  | error failure =>
      cases failure with
      | rejected error => exact .inr (.inl ⟨_, .manifest h hload⟩)
      | broken breakdown =>
          exact .inl ⟨breakdown, .manifest h (Manifest.load_eq_broken_iff.mp hload)⟩
  | ok manifest =>
      cases hschema : Manifest.schemaPath file manifest with
      | error breakdown =>
          obtain ⟨fault, hfault, rfl⟩ := Manifest.schemaPath_eq_error_iff.mp hschema
          exact .inl ⟨_, .named h hload hfault⟩
      | ok schema => exact ends_of_hasSchema (.named h hload hschema)

/-- **A check ends in one of three ways.** -/
theorem ends (files : Files Id) (path : Path) : Ends files path := by
  cases hpath : (files.status path).run with
  | absent => exact .inr (.inl ⟨_, .absent hpath⟩)
  | hidden fault => exact .inl ⟨_, .hidden hpath⟩
  | file =>
      cases hmanifest : isManifest path with
      | true => exact ends_of_hasManifest (.itself hpath hmanifest)
      | false => exact ends_of_hasSchema (.itself hpath hmanifest)
  | directory =>
      cases hchild : (files.status (path.child Manifest.fileName)).run with
      | absent => exact .inr (.inl ⟨_, .noManifest hpath hchild⟩)
      | hidden fault => exact .inl ⟨_, .hiddenManifest hpath hchild⟩
      | file => exact ends_of_hasManifest (.inside hpath (.inl hchild))
      | directory => exact ends_of_hasManifest (.inside hpath (.inr hchild))

/-! ## What comes of each -/

/-- The path that a request is about. -/
def target (setting : Setting) (request : CheckRequest) : Path :=
  (setting.directory.join request.path).resolve

theorem check_of_hasNul {m : Type → Type} [Monad m] {files : Files m}
    (h : Path.hasNul request.path = true) :
    check files setting request = pure (.error (.unusablePath .null)) := by
  rw [check, Path.join?, h]
  rfl

theorem check_of_not_hasNul {m : Type → Type} [Monad m] {files : Files m}
    (h : Path.hasNul request.path = false) :
    check files setting request = checkPath files setting request (target setting request) := by
  rw [check, Path.join?, h]
  rfl

end Command

end Ways

/-! ## Some checks -/

namespace Command

end Command

end EntitySchema
