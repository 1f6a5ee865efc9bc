/-
# `EntitySchema.Proofs.LineEnds` — however the line ends are written

A text file can end its lines with a line feed, with a carriage return, or with both.  All of them
are read as line feeds, so the text that is loaded does not show how it was written, and it has no
carriage return.  Written out as it is, such a text is read back unchanged.

What is done with a schema depends on the texts of files only.  `SameTexts` says that two trees have
the same directories and the same texts, and there is one lemma for each step of a check that it does
the same in both.  So nothing of a check shows how a file writes its line ends, be it the schema, its
manifest or one that has nothing to do with them.
-/
import EntitySchema.Proofs.Breakdown
import EntitySchema.Proofs.Positions
import EntitySchema.Proofs.StoredFiles

namespace EntitySchema

/-! ## Writing line ends -/

namespace Text

/-- The ways to end a line. -/
inductive LineEnd where
  | lineFeed
  /-- A carriage return with a line feed right after it. -/
  | both
  | carriageReturn

namespace LineEnd

variable {lineEnd : LineEnd} {text : List Char} {c : Char}

/-- The characters of a line end. -/
def characters : LineEnd → List Char
  | .lineFeed => ['\n']
  | .both => ['\r', '\n']
  | .carriageReturn => ['\r']

/-- A text with its line feeds written as line ends of one kind. -/
def write (lineEnd : LineEnd) (text : List Char) : List Char :=
  text.flatMap fun c => if c = '\n' then lineEnd.characters else [c]

theorem write_cons_lineFeed :
    lineEnd.write ('\n' :: text) = lineEnd.characters ++ lineEnd.write text := by
  rw [write, List.flatMap_cons, if_pos rfl]
  rfl

theorem write_cons_of_ne (h : c ≠ '\n') :
    lineEnd.write (c :: text) = c :: lineEnd.write text := by
  rw [write, List.flatMap_cons, if_neg h]
  rfl

theorem write_lineFeed : LineEnd.lineFeed.write text = text := by
  induction text with
  | nil => rfl
  | cons c rest ih =>
      by_cases hc : c = '\n'
      · subst hc
        rw [write_cons_lineFeed, ih]
        rfl
      · rw [write_cons_of_ne hc, ih]

/-- A carriage return that ends a line is not taken for the first half of a longer line end. -/
theorem head?_write_carriageReturn : (LineEnd.carriageReturn.write text).head? ≠ some '\n' := by
  cases text with
  | nil => exact fun h => nomatch h
  | cons c rest =>
      by_cases hc : c = '\n'
      · subst hc
        rw [write_cons_lineFeed]
        exact fun h => absurd (Option.some.inj h) (by decide)
      · rw [write_cons_of_ne hc]
        exact fun h => hc (Option.some.inj h)

end LineEnd

variable {text : List Char}

theorem foldLineEnds_cons {c : Char} (h : c ≠ '\r') :
    foldLineEnds (c :: text) = c :: foldLineEnds text := by
  rw [foldLineEnds, if_neg h]
  exact fun _ hc => absurd hc h

theorem foldLineEnds_carriageReturn (h : text.head? ≠ some '\n') :
    foldLineEnds ('\r' :: text) = '\n' :: foldLineEnds text := by
  rw [foldLineEnds, if_pos rfl]
  rintro rest - rfl
  exact h rfl

/-- A text is read back, whichever line ends it is written with. -/
theorem foldLineEnds_write (lineEnd : LineEnd) (h : '\r' ∉ text) :
    foldLineEnds (lineEnd.write text) = text := by
  induction text with
  | nil => rfl
  | cons c rest ih =>
      obtain ⟨hc, hrest⟩ := not_or.mp (mt List.mem_cons.mpr h)
      by_cases hline : c = '\n'
      · subst hline
        rw [LineEnd.write_cons_lineFeed]
        cases lineEnd with
        | lineFeed => exact congrArg _ (ih hrest)
        | both => exact congrArg _ (ih hrest)
        | carriageReturn =>
            refine (foldLineEnds_carriageReturn LineEnd.head?_write_carriageReturn).trans ?_
            rw [ih hrest]
      · rw [LineEnd.write_cons_of_ne hline, foldLineEnds_cons (Ne.symm hc), ih hrest]

theorem foldLineEnds_eq_self (h : '\r' ∉ text) : foldLineEnds text = text := by
  have hfold := foldLineEnds_write .lineFeed h
  rwa [LineEnd.write_lineFeed] at hfold

theorem ofBytes_encode (written : List Char) :
    ofBytes (Utf8.encode written) = .ok (foldLineEnds written) :=
  ofBytes_eq_ok_iff.mpr ⟨written, rfl, rfl⟩

end Text

/-! ## What depends on the texts of files -/

/-- Bytes that are read as the same text, or with the same fault. -/
def Text.SameText (bytes bytes' : List UInt8) : Prop := ofBytes bytes = ofBytes bytes'

/-- Files of which the same is said, and which are read as the same texts. -/
structure Files.SameTexts (files files' : Files Id) : Prop where
  status (path : Path) : files.status path = files'.status path
  read (path : Path) :
    (∃ fault, files.read path = .error fault ∧ files'.read path = .error fault)
      ∨ ∃ bytes bytes', files.read path = .ok bytes ∧ files'.read path = .ok bytes'
        ∧ Text.SameText bytes bytes'

/-- So it is with trees that have the same directories, and files with the same texts. -/
theorem FileTree.Alike.sameTexts {tree tree' : FileTree}
    (h : FileTree.Alike Text.SameText tree tree') : tree.files.SameTexts tree'.files :=
  ⟨h.status, h.read⟩

namespace Files.SameTexts

open Command

section Loading

variable {files files' : Files Id} (h : files.SameTexts files')
include h

theorem load (path : Path) : Schema.load files path = Schema.load files' path := by
  rw [load_eq, load_eq]
  rcases h.read path with ⟨fault, hread, hread'⟩ | ⟨bytes, bytes', hread, hread', htext⟩
  · rw [hread, hread']
  · rw [hread, hread']
    show Schema.decode bytes = Schema.decode bytes'
    rw [Schema.decode, Schema.decode, htext]

theorem checkLocated (setting : Setting) (request : CheckRequest) (located : Located) :
    checkLocated files setting request located
      = checkLocated files' setting request located := by
  unfold Command.checkLocated
  rw [h.load]

end Loading

variable [Libraries] {files files' : Files Id} (h : files.SameTexts files')
include h

theorem loadManifest (path : Path) : Manifest.load files path = Manifest.load files' path := by
  rw [Manifest.load_eq, Manifest.load_eq]
  rcases h.read path with ⟨fault, hread, hread'⟩ | ⟨bytes, bytes', hread, hread', htext⟩
  · rw [hread, hread']
  · rw [hread, hread']
    show Manifest.ofBytes path bytes = Manifest.ofBytes path bytes'
    rw [Manifest.ofBytes, Manifest.ofBytes, htext]

theorem schemaOfManifest (path : Path) :
    schemaOfManifest files path = schemaOfManifest files' path := by
  unfold Command.schemaOfManifest
  rw [h.loadManifest path]

theorem schemaOfFile (path : Path) : schemaOfFile files path = schemaOfFile files' path := by
  rw [Command.schemaOfFile, Command.schemaOfFile, h.schemaOfManifest path]

theorem locate (path : Path) (status : FileStatus) :
    locate files path status = locate files' path status := by
  cases status with
  | absent => exact h.schemaOfFile path
  | file => exact h.schemaOfFile path
  | directory =>
      rw [locate_directory, locate_directory, h.status (path.child Manifest.fileName),
        h.schemaOfManifest (path.child Manifest.fileName)]
  | hidden fault => rfl

theorem checkPath (setting : Setting) (request : CheckRequest) (path : Path) :
    checkPath files setting request path = checkPath files' setting request path := by
  have hstatus := h.status path
  by_cases habsent : files.status path = .absent
  · rw [checkPath_of_absent habsent, checkPath_of_absent (hstatus ▸ habsent)]
  · rw [checkPath_eq habsent, checkPath_eq (hstatus ▸ habsent), ← hstatus, h.locate]
    simp only [h.checkLocated]

theorem check (setting : Setting) (request : CheckRequest) :
    check files setting request = check files' setting request := by
  cases hnul : Path.hasNul request.path with
  | true => rw [check_of_hasNul hnul, check_of_hasNul hnul]
  | false => rw [check_of_not_hasNul hnul, check_of_not_hasNul hnul, h.checkPath]

end Files.SameTexts

/-! ## Files with one text -/

section Files

variable {tree : FileTree} {path : Path} {text : List Char}

theorem FileTree.Holds.not_carriageReturn (h : tree.Holds path text) : '\r' ∉ text := by
  obtain ⟨written, -, rfl⟩ := h
  exact Text.not_mem_foldLineEnds written

theorem holds_of_at?_write {lineEnd : Text.LineEnd} (htext : '\r' ∉ text)
    (h : tree.at? path = .ok (.file (Text.Utf8.encode (lineEnd.write text)))) :
    tree.Holds path text :=
  ⟨lineEnd.write text, h, Text.foldLineEnds_write lineEnd htext⟩

theorem sameTexts_store (lineEnd : Text.LineEnd) (htext : '\r' ∉ text) (tree : FileTree)
    (path : Path) :
    (tree.store path (Text.Utf8.encode (lineEnd.write text))).files.SameTexts
      (tree.store path (Text.Utf8.encode text)).files := by
  have hsame : Text.SameText (Text.Utf8.encode (lineEnd.write text)) (Text.Utf8.encode text) := by
    rw [Text.SameText, Text.ofBytes_encode, Text.ofBytes_encode,
      Text.foldLineEnds_write lineEnd htext, Text.foldLineEnds_eq_self htext]
  have hrefl : ∀ bytes, Text.SameText bytes bytes := fun _ => rfl
  exact (FileTree.alike_store hrefl hsame tree path).sameTexts

/-- A text that has been read can be stored as it is. -/
theorem FileTree.Holds.store (h : tree.Holds path text) :
    (tree.store path (Text.Utf8.encode text)).Holds path text := by
  have htext := h.not_carriageReturn
  obtain ⟨written, hat, -⟩ := h
  exact ⟨text, FileTree.at?_store hat, Text.foldLineEnds_eq_self htext⟩

end Files

/-- **Line ends are not seen.**  A file is loaded as its text, whichever line ends it is written with,
and what is found about it is found in the text alone.  Stored at the same path in the same tree, the
file leads every check to the same outcome.  And a text that has been loaded has no carriage return;
stored in the place of its file and loaded again, it is the same. -/
theorem lineEnds_unseen [Libraries] :
    (∀ (text : List Char) (lineEnd : Text.LineEnd), '\r' ∉ text →
        (∀ (tree : FileTree) (path : Path),
          tree.at? path = .ok (.file (Text.Utf8.encode (lineEnd.write text))) →
          Schema.load tree.files path = .ok text
            ∧ Schema.validateFile tree.files path = (Schema.parse text).map validate)
        ∧ ∀ (tree : FileTree) (path : Path) (setting : Command.Setting)
            (request : Command.CheckRequest),
          Command.check (tree.store path (Text.Utf8.encode (lineEnd.write text))).files setting
              request
            = Command.check (tree.store path (Text.Utf8.encode text)).files setting request)
      ∧ ∀ (tree : FileTree) (path : Path) (text : List Char),
        Schema.load tree.files path = .ok text →
        '\r' ∉ text
          ∧ Schema.load (tree.store path (Text.Utf8.encode text)).files path = .ok text := by
  refine ⟨fun text lineEnd htext => ⟨?files, ?check⟩, ?again⟩
  case files =>
    intro tree path hat
    have hholds := holds_of_at?_write htext hat
    exact ⟨load_eq_ok_iff.mpr hholds, validateFile_of_holds hholds⟩
  case check =>
    intro tree path setting request
    exact (sameTexts_store lineEnd htext tree path).check setting request
  case again =>
    intro tree path text hload
    have hholds := load_eq_ok_iff.mp hload
    exact ⟨hholds.not_carriageReturn, load_eq_ok_iff.mpr hholds.store⟩

/-- A text with empty lines, one of them in a description, and a line end at its end. -/
def spacedText : List Char := "\"\"\"\n\nA pool.\n\"\"\"\n\ntype Pool \x7b id: ID! \x7d\n".toList

/-- A tree with this text in a file, its lines ended in two characters. -/
def spacedTree : FileTree :=
  .directory
    [ ("dex", .directory []),
      ("pools.graphql", .file (Text.Utf8.encode (Text.LineEnd.both.write spacedText))) ]

/-- The file is named by a path that goes down and up again. -/
theorem lineEnds_unseen_spaced :
    '\r' ∉ spacedText
      ∧ spacedTree.at? ⟨["dex", "..", "pools.graphql"]⟩
        = .ok (.file (Text.Utf8.encode (Text.LineEnd.both.write spacedText)))
      ∧ Schema.load spacedTree.files ⟨["dex", "..", "pools.graphql"]⟩ = .ok spacedText
      ∧ Schema.load (spacedTree.store ⟨["dex", "..", "pools.graphql"]⟩
          (Text.Utf8.encode spacedText)).files ⟨["dex", "..", "pools.graphql"]⟩ = .ok spacedText
      ∧ Command.check (spacedTree.store ⟨["dex", "..", "pools.graphql"]⟩
          (Text.Utf8.encode (Text.LineEnd.carriageReturn.write spacedText))).files ⟨⟨["dex"]⟩, false⟩
          ⟨"../pools.graphql", false, true⟩
        = Command.check (spacedTree.store ⟨["dex", "..", "pools.graphql"]⟩
          (Text.Utf8.encode spacedText)).files ⟨⟨["dex"]⟩, false⟩
          ⟨"../pools.graphql", false, true⟩ := by
  have htext : '\r' ∉ spacedText := by decide
  have hat : spacedTree.at? ⟨["dex", "..", "pools.graphql"]⟩
      = .ok (.file (Text.Utf8.encode (Text.LineEnd.both.write spacedText))) := rfl
  have hload := ((lineEnds_unseen.1 spacedText .both htext).1 spacedTree _ hat).1
  have hagain := (lineEnds_unseen.2 spacedTree _ spacedText hload).2
  exact ⟨htext, hat, hload, hagain, (lineEnds_unseen.1 spacedText .carriageReturn htext).2 _ _ _ _⟩

end EntitySchema
