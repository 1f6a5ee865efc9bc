/-
# `EntitySchema.Proofs.Loading` — when there is a schema to validate

Validating a file can fail at the file, which then holds no text, or at its text, which then is no
document of a type system.  There is no third way: what the parser lets through are definitions, and
each kind of definition has its rules, be it that there are none.

`FileTree.Holds` says without reading that a file holds a text: its bytes are what some text is
written as, and the text is this one with its line ends folded.  There is one lemma for each step of
the way from the path to the findings, which says when the step succeeds and with what;
`validateFile_outcome` has the three outcomes side by side.
-/
import EntitySchema.Proofs.Utf8
import EntitySchema.Proofs.Verdict
import EntitySchema.Schema

namespace EntitySchema

inductive Item.IsExecutable : Item → Prop
  | executable {executable : Executable} : IsExecutable (.executable executable)

/-- The file at a path holds a text, however its line ends are written. -/
def FileTree.Holds (tree : FileTree) (path : Path) (text : List Char) : Prop :=
  ∃ written, tree.at? path = .ok (.file (Text.Utf8.encode written))
    ∧ Text.foldLineEnds written = text

/-- Some item of a document, wherever it stands, is an operation or a fragment. -/
def Document.HasExecutable (document : Document) : Prop :=
  ∃ item ∈ document.items, item.IsExecutable

section Files

variable {files : Files Id} {tree : FileTree} {path : Path} {text : List Char}

theorem read_eq_ok_iff {bytes : List UInt8} :
    tree.read path = .ok bytes ↔ tree.at? path = .ok (.file bytes) := by
  rw [FileTree.read]
  cases tree.at? path with
  | error fault => exact ⟨fun h => (nomatch h), fun h => (nomatch h)⟩
  | ok found =>
      cases found with
      | directory entries => exact ⟨fun h => (nomatch h), fun h => (nomatch h)⟩
      | locked isDirectory => exact ⟨fun h => (nomatch h), fun h => (nomatch h)⟩
      | file bytes' =>
          constructor
          · intro h
            cases h
            rfl
          · intro h
            cases h
            rfl

theorem ofBytes_eq_ok_iff {bytes : List UInt8} :
    Text.ofBytes bytes = .ok text
      ↔ ∃ written, bytes = Text.Utf8.encode written ∧ Text.foldLineEnds written = text := by
  rw [Text.ofBytes]
  cases hdecode : Text.Utf8.decode bytes with
  | error fault =>
      refine ⟨fun h => (nomatch h), ?_⟩
      rintro ⟨written, hbytes, -⟩
      cases hdecode.symm.trans (Text.Utf8.decode_eq_ok_iff.mpr hbytes)
  | ok written =>
      have hbytes := Text.Utf8.decode_eq_ok_iff.mp hdecode
      constructor
      · intro h
        cases h
        exact ⟨written, hbytes, rfl⟩
      · rintro ⟨written', hbytes', rfl⟩
        cases hdecode.symm.trans (Text.Utf8.decode_eq_ok_iff.mpr hbytes')
        rfl

theorem decode_eq_ok_iff {bytes : List UInt8} :
    Schema.decode bytes = .ok text ↔ Text.ofBytes bytes = .ok text := by
  rw [Schema.decode]
  cases Text.ofBytes bytes with
  | error fault => exact ⟨fun h => (nomatch h), fun h => (nomatch h)⟩
  | ok text' =>
      constructor
      · intro h
        cases h
        rfl
      · intro h
        cases h
        rfl

theorem load_eq :
    Schema.load files path
      = match (files.read path).run with
        | .error fault => .error (.unreadable path fault)
        | .ok bytes => Schema.decode bytes := by
  show (match (files.read path).run with | .error _ => _ | .ok _ => _) = _
  cases (files.read path).run with
  | error fault => rfl
  | ok bytes => rfl

theorem load_eq_ok_iff : Schema.load tree.files path = .ok text ↔ tree.Holds path text := by
  rw [load_eq]
  show (match tree.read path with | .error _ => _ | .ok _ => _) = _ ↔ _
  constructor
  · intro h
    cases hread : tree.read path with
    | error fault =>
        rw [hread] at h
        cases h
    | ok bytes =>
        rw [hread] at h
        obtain ⟨written, rfl, hfold⟩ := ofBytes_eq_ok_iff.mp (decode_eq_ok_iff.mp h)
        exact ⟨written, read_eq_ok_iff.mp hread, hfold⟩
  · rintro ⟨written, hat, hfold⟩
    rw [read_eq_ok_iff.mpr hat]
    exact decode_eq_ok_iff.mpr (ofBytes_eq_ok_iff.mpr ⟨written, rfl, hfold⟩)

theorem FileTree.Holds.unique {text' : List Char} (h : tree.Holds path text)
    (h' : tree.Holds path text') : text = text' := by
  have hload := (load_eq_ok_iff.mpr h).symm.trans (load_eq_ok_iff.mpr h')
  exact Except.ok.inj hload

end Files

/-! ## The definitions in a text -/

section Text

variable {text : List Char} {document : Document} {definitions : List Definition}

theorem executables_isEmpty_iff :
    document.executables.isEmpty = true ↔ ¬ document.HasExecutable := by
  rw [List.isEmpty_iff, Document.executables, List.filterMap_eq_nil_iff]
  constructor
  · rintro h ⟨item, hmem, hexecutable⟩
    cases hexecutable
    exact nomatch h _ hmem
  · intro h item hmem
    cases item with
    | definition definition => rfl
    | executable executable => exact absurd ⟨_, hmem, .executable⟩ h

/-- The definitions are all that a document without executables has. -/
theorem items_eq_map_definitions_iff :
    document.items = document.definitions.map Item.definition ↔ ¬ document.HasExecutable := by
  constructor
  · rintro h ⟨item, hmem, hexecutable⟩
    rw [h] at hmem
    obtain ⟨definition, _, rfl⟩ := List.mem_map.mp hmem
    cases hexecutable
  · intro h
    have hitems : document.items.filterMap (fun item => item.definition?.map Item.definition)
        = document.items.filterMap some := by
      refine List.filterMap_congr fun item hmem => ?_
      cases item with
      | definition definition => rfl
      | executable executable => exact absurd ⟨_, hmem, .executable⟩ h
    rw [Document.definitions, List.map_filterMap, hitems, List.filterMap_some]

/-- Parsing succeeds on the documents without executables, and with all of their items. -/
theorem parse_eq_ok_iff :
    Schema.parse text = .ok definitions
      ↔ ∃ document, Document.parse text = .ok document
        ∧ document.items = definitions.map Item.definition := by
  rw [Schema.parse]
  cases hparse : Document.parse text with
  | error error =>
      refine ⟨fun h => (nomatch h), ?_⟩
      rintro ⟨document, h, -⟩
      cases h
  | ok document =>
      show (if document.executables.isEmpty then _ else _) = _ ↔ _
      constructor
      · intro h
        split at h
        · rename_i hempty
          cases h
          exact ⟨document, rfl, items_eq_map_definitions_iff.mpr (executables_isEmpty_iff.mp hempty)⟩
        · cases h
      · rintro ⟨document', hdocument, hitems⟩
        cases hdocument
        have hdefinitions : document.definitions = definitions := by
          rw [Document.definitions, hitems, filterMap_definition?]
        have hempty : document.executables.isEmpty = true := by
          rw [executables_isEmpty_iff, ← items_eq_map_definitions_iff, hdefinitions, hitems]
        rw [if_pos hempty, hdefinitions]

end Text

/-! ## The three outcomes -/

section Outcomes

variable {files : Files Id} {tree : FileTree} {path : Path} {text : List Char}
  {error : SchemaError}

theorem validateFile_eq :
    Schema.validateFile files path
      = match (Schema.load files path).run with
        | .error error => .error error
        | .ok text => (Schema.parse text).map validate := by
  show (match (Schema.load files path).run with | .error _ => _ | .ok _ => _) = _
  cases (Schema.load files path).run with
  | error error => rfl
  | ok text => rfl

theorem validateFile_of_load_eq_error (h : Schema.load files path = .error error) :
    Schema.validateFile files path = .error error := by
  rw [validateFile_eq, h]
  rfl

theorem validateFile_of_load_eq_ok (h : Schema.load files path = .ok text) :
    Schema.validateFile files path = (Schema.parse text).map validate := by
  rw [validateFile_eq, h]
  rfl

theorem validateFile_of_holds (h : tree.Holds path text) :
    Schema.validateFile tree.files path = (Schema.parse text).map validate :=
  validateFile_of_load_eq_ok (load_eq_ok_iff.mpr h)

/-- There are findings exactly if the file holds a text that parses. -/
theorem validateFile_eq_ok_iff {findings : List Finding} :
    Schema.validateFile tree.files path = .ok findings
      ↔ ∃ text definitions, tree.Holds path text ∧ Schema.parse text = .ok definitions
        ∧ validate definitions = findings := by
  constructor
  · intro h
    cases hload : Schema.load tree.files path with
    | error error =>
        rw [validateFile_of_load_eq_error hload] at h
        cases h
    | ok text =>
        have hholds := load_eq_ok_iff.mp hload
        rw [validateFile_of_holds hholds] at h
        cases hparse : Schema.parse text with
        | error error =>
            rw [hparse] at h
            cases h
        | ok definitions =>
            rw [hparse] at h
            cases h
            exact ⟨text, definitions, hholds, hparse, rfl⟩
  · rintro ⟨text, definitions, hholds, hparse, rfl⟩
    rw [validateFile_of_holds hholds, hparse]
    rfl

end Outcomes

end EntitySchema
