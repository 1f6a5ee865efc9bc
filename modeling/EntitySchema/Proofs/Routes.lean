/-
# `EntitySchema.Proofs.Routes` — different ways to the same schema

The schema of a subgraph can be named by its directory, by the manifest in it, or by itself.  Each
way takes other steps: a name is added to the path of the directory, the manifest is read, and its
schema is resolved from where the manifest is.  They arrive at the same path, which is what is shown
in the report; and from there on a check does not know how it got there, but for its log.  So all
three have the same outcome, unless the log is shown.

Nor does it matter where a path is relative to: in a directory it is the path with that directory
written before it (`target_join`).  This is said of the files of any system, as nothing is asked
about them until the path is known.
-/
import EntitySchema.Proofs.Breakdown
import EntitySchema.Proofs.CommandLine
import EntitySchema.Proofs.Paths

namespace EntitySchema.Command

variable {m : Type → Type} [Monad m] {files : Files m} {tree : FileTree}
  {setting setting' : Setting} {before after : List Flag} {directory path text text' : String}
  {manifest : Manifest} {place schema : Path}

/-! ## One directory written before a path -/

theorem isPlain_append (hne : text ≠ "") (hplain : IsPlain text) : IsPlain (text ++ text') := by
  rw [IsPlain, Path.head?_toList_append hne]
  exact hplain

theorem isPlain_of_isAbsolute (h : Path.isAbsolute text = true) : IsPlain text := by
  rw [Path.isAbsolute, beq_iff_eq] at h
  rw [IsPlain, h]
  decide

/-- A relative path leads where it leads with its directory written before it. -/
theorem target_join (hdirectory : Path.isAbsolute directory = true)
    (hpath : Path.isAbsolute path = false)
    (hplace : place.resolve = (Path.join ⟨[]⟩ directory).resolve) (other : Path) :
    (place.join path).resolve = (other.join (directory ++ "/" ++ path)).resolve := by
  have hne := Path.ne_empty_of_isAbsolute hdirectory
  rw [Path.join_of_isAbsolute hdirectory] at hplace
  rw [Path.join_of_not_isAbsolute hpath, Path.join_append hne, Path.join_of_isAbsolute hdirectory,
    Path.resolve_append, hplace, ← Path.resolve_append]

/-- The text that names the manifest leads to the manifest. -/
theorem target_fileName (hne : directory ≠ "") :
    (place.join (directory ++ "/" ++ Manifest.fileName)).resolve
      = (place.join directory).resolve.child Manifest.fileName := by
  have hpieces : Path.piecesOf Manifest.fileName = [Manifest.fileName] := by decide
  have hname : Manifest.fileName ≠ ".." := by decide
  rw [Path.join_append hne, hpieces, ← Path.resolve_child hname]
  rfl

/-! ## What a check depends on -/

/-- Without a log to be shown, it does not count how a schema was found. -/
theorem checkLocated_of_not_verbose {located : Located} {json : Bool} :
    checkLocated files setting ⟨text, json, false⟩ located
      = checkLocated files setting ⟨text, json, false⟩ ⟨located.path, []⟩ := by
  simp only [checkLocated, logged_false]

section Ways

variable [Libraries]

theorem check_eq {json verbose : Bool} (hnul : Path.hasNul text = false) :
    check files setting ⟨text, json, verbose⟩
      = checkPath files setting ⟨text, json, verbose⟩ (setting.directory.join text).resolve :=
  check_of_not_hasNul hnul

/-- Of the request only the flags count, and of the setting only the colours, once there is a
path. -/
theorem checkPath_congr {json verbose : Bool} (hcolored : setting.colored = setting'.colored) :
    checkPath files setting ⟨text, json, verbose⟩ place
      = checkPath files setting' ⟨text', json, verbose⟩ place := by
  obtain ⟨directory, colored⟩ := setting
  cases hcolored
  rfl

theorem run_checkLine (hplain : IsPlain text) :
    run files setting (checkLine before after text)
      = if .help ∈ before ++ after then return .ok ⟨0, Topic.check.help, ""⟩
        else check files setting
          ⟨text, (before ++ after).contains .json, (before ++ after).contains .verbose⟩ := by
  rw [run, ofTexts_checkLine hplain]
  by_cases hhelp : .help ∈ before ++ after
  · rw [if_pos hhelp, if_pos hhelp]
    rfl
  · rw [if_neg hhelp, if_neg hhelp]
    rfl

/-- Command lines with the same flags do the same, if the checks do that they may ask for. -/
theorem run_checkLine_congr (hplain : IsPlain text) (hplain' : IsPlain text')
    (hcheck : ∀ json verbose, (.verbose ∉ before ++ after → verbose = false) →
      check files setting ⟨text, json, verbose⟩ = check files setting' ⟨text', json, verbose⟩) :
    run files setting (checkLine before after text)
      = run files setting' (checkLine before after text') := by
  rw [run_checkLine hplain, run_checkLine hplain']
  split
  · rfl
  · refine hcheck _ _ fun hverbose => ?_
    rwa [← Bool.not_eq_true, List.contains_iff_mem]

/-! ## The directory, the manifest and the schema of a subgraph -/

/-- A directory with a manifest that names a schema, which is a file and does not pass for a
manifest itself. -/
structure IsSubgraph (tree : FileTree) (place : Path) (manifest : Manifest) (schema : Path) :
    Prop where
  directory : tree.status place = .directory
  file : tree.status (place.child Manifest.fileName) = .file
  load : Manifest.load tree.files (place.child Manifest.fileName) = .ok manifest
  schemaPath : Manifest.schemaPath (place.child Manifest.fileName) manifest = .ok schema
  schemaFile : tree.status schema = .file
  noManifest : isManifest schema = false

namespace IsSubgraph

variable (h : IsSubgraph tree place manifest schema)
include h

theorem hasSchema : HasSchema tree.files place
    ⟨schema, [.manifestLoaded (place.child Manifest.fileName) manifest.file.shown]⟩ :=
  .named (.inside h.directory (.inl h.file)) h.load h.schemaPath

theorem hasSchema_child : HasSchema tree.files (place.child Manifest.fileName)
    ⟨schema, [.manifestLoaded (place.child Manifest.fileName) manifest.file.shown]⟩ :=
  .named (.itself h.file isManifest_child_fileName) h.load h.schemaPath

theorem hasSchema_schema : HasSchema tree.files schema ⟨schema, []⟩ :=
  .itself h.schemaFile h.noManifest

/-- The path of the schema is that of the directory with what the manifest says. -/
theorem ofStr_eq : place.ofStr manifest.file = .ok schema := by
  have hschema := h.schemaPath
  rw [Manifest.schemaPath, Path.parent_child] at hschema
  cases hpath : place.ofStr manifest.file with
  | error fault =>
      rw [hpath] at hschema
      cases hschema
  | ok path =>
      rw [hpath] at hschema
      cases hschema
      rfl

theorem isProper (hplace : place.IsProper) : schema.IsProper := (Path.ofStr_eq_ok hplace h.ofStr_eq).1

theorem resolve_schema (hplace : place.IsProper) : schema.resolve = schema :=
  (Path.ofStr_eq_ok hplace h.ofStr_eq).2

end IsSubgraph

/-- The text that writes the path of the schema leads to the schema. -/
theorem target_schema (h : IsSubgraph tree place manifest schema) (hproper : place.IsProper)
    (other : Path) : (other.join schema.toString).resolve = schema := by
  rw [Path.join_toString (h.isProper hproper), h.resolve_schema hproper]

/-- The three checks come to the same, but for the log. -/
theorem check_isSubgraph {json verbose : Bool} (hproper : setting.directory.IsProper)
    (hne : directory ≠ "") (hnul : Path.hasNul directory = false)
    (h : IsSubgraph tree (setting.directory.join directory).resolve manifest schema) :
    check tree.files setting ⟨directory, json, verbose⟩
        = check tree.files setting ⟨directory ++ "/" ++ Manifest.fileName, json, verbose⟩
      ∧ (verbose = false → check tree.files setting ⟨directory, json, verbose⟩
        = check tree.files setting ⟨schema.toString, json, verbose⟩) := by
  have hplace := (hproper.join hnul).resolve
  have hnulName : Path.hasNul (directory ++ "/" ++ Manifest.fileName) = false := by
    rw [Path.hasNul_append, Path.hasNul_append, hnul]
    decide
  have hcheck : check tree.files setting ⟨directory, json, verbose⟩ = .ok
      (checkLocated tree.files setting ⟨directory, json, verbose⟩
        ⟨schema, [.manifestLoaded
          ((setting.directory.join directory).resolve.child Manifest.fileName)
          manifest.file.shown]⟩) := by
    rw [check_eq hnul, checkPath_of_hasSchema h.hasSchema]
  refine ⟨?_, ?_⟩
  · rw [hcheck, check_eq hnulName, target_fileName hne,
      checkPath_of_hasSchema h.hasSchema_child]
    rfl
  · rintro rfl
    rw [hcheck, check_eq (h.isProper hplace).hasNul_toString,
      target_schema h hplace, checkPath_of_hasSchema h.hasSchema_schema,
      checkLocated_of_not_verbose]
    rfl

/-- **All routes to a schema have the same outcome.**  Checking a directory, the manifest in it and
the schema that the manifest names comes to the same, unless the log is asked for.  And a relative
path is checked in its directory as it is checked anywhere with the directory written before it. -/
theorem run_routes :
    (∀ (tree : FileTree) (setting : Setting) (before after : List Flag) (directory : String)
        (manifest : Manifest) (schema : Path),
      setting.directory.IsProper →
      directory ≠ "" → IsPlain directory → Path.hasNul directory = false →
      IsSubgraph tree (setting.directory.join directory).resolve manifest schema →
      .verbose ∉ before ++ after →
      run tree.files setting (checkLine before after directory)
          = run tree.files setting
            (checkLine before after (directory ++ "/" ++ Manifest.fileName))
        ∧ run tree.files setting (checkLine before after directory)
          = run tree.files setting (checkLine before after schema.toString))
      ∧ ∀ {m : Type → Type} [Monad m] (files : Files m) (colored : Bool) (place other : Path)
          (before after : List Flag) (directory path : String),
        Path.isAbsolute directory = true → Path.hasNul directory = false →
        place.resolve = (Path.join ⟨[]⟩ directory).resolve →
        Path.isAbsolute path = false → IsPlain path → Path.hasNul path = false →
        run files ⟨place, colored⟩ (checkLine before after path)
          = run files ⟨other, colored⟩ (checkLine before after (directory ++ "/" ++ path)) := by
  constructor
  · intro tree setting before after directory manifest schema hproper hne hplain hnul h hverbose
    have hplainName : IsPlain (directory ++ "/" ++ Manifest.fileName) := by
      rw [String.append_assoc]
      exact isPlain_append hne hplain
    have hplainSchema : IsPlain schema.toString := isPlain_append (by decide) (by decide)
    constructor
    · exact run_checkLine_congr hplain hplainName fun json verbose _ =>
        (check_isSubgraph hproper hne hnul h).1
    · exact run_checkLine_congr hplain hplainSchema fun json verbose hflag =>
        (check_isSubgraph hproper hne hnul h).2 (hflag hverbose)
  · intro m _ files colored place other before after directory path hdirectory hdirectoryNul hplace
      hpath hplain hnul
    have hplainJoin : IsPlain (directory ++ "/" ++ path) := by
      have hne := Path.ne_empty_of_isAbsolute hdirectory
      rw [String.append_assoc]
      exact isPlain_append hne (isPlain_of_isAbsolute hdirectory)
    have hnulJoin : Path.hasNul (directory ++ "/" ++ path) = false := by
      rw [Path.hasNul_append, Path.hasNul_append, hdirectoryNul, hnul]
      decide
    refine run_checkLine_congr hplain hplainJoin fun json verbose _ => ?_
    rw [check_eq hnul, check_eq hnulJoin, target_join hdirectory hpath hplace other]
    exact checkPath_congr rfl

end Ways

/-! ## A small tree of files -/

/-- A directory whose manifest names a schema beside the directory. -/
def tokenTree : FileTree :=
  .directory
    [("token", .directory
        [(Manifest.fileName,
          .file (Text.Utf8.encode "schema:\n  file: ./../schema.graphql\n".toList))]),
      ("schema.graphql", .file (Text.Utf8.encode "type Token @entity \x7b id: Bytes! \x7d".toList))]

theorem isSubgraph_token :
    IsSubgraph tokenTree (Path.join ⟨[]⟩ "token/.").resolve ⟨none, none, "./../schema.graphql"⟩
      ⟨["schema.graphql"]⟩ := by
  have hload : (Manifest.load tokenTree.files ⟨["token", Manifest.fileName]⟩).toOption
      = some ⟨none, none, "./../schema.graphql"⟩ := by decide +kernel
  refine ⟨by decide +kernel, by decide +kernel, ?_, rfl, by decide +kernel, by decide +kernel⟩
  show Manifest.load tokenTree.files ⟨["token", Manifest.fileName]⟩ = _
  cases hresult : Manifest.load tokenTree.files ⟨["token", Manifest.fileName]⟩ with
  | error failure =>
      rw [hresult] at hload
      cases hload
  | ok manifest =>
      rw [hresult] at hload
      cases hload
      rfl

/-- Three routes to one schema, and one of them from two directories. -/
theorem run_routes_token :
    IsSubgraph tokenTree (Path.join ⟨[]⟩ "token/.").resolve ⟨none, none, "./../schema.graphql"⟩
        ⟨["schema.graphql"]⟩
      ∧ run tokenTree.files ⟨⟨[]⟩, false⟩ ["check", "token/.", "--json"]
        = run tokenTree.files ⟨⟨[]⟩, false⟩ ["check", "token/./subgraph.yaml", "--json"]
      ∧ run tokenTree.files ⟨⟨[]⟩, false⟩ ["check", "token/.", "--json"]
        = run tokenTree.files ⟨⟨[]⟩, false⟩ ["check", "/schema.graphql", "--json"]
      ∧ run tokenTree.files ⟨⟨["token"]⟩, true⟩ ["check", "--verbose", "../token"]
        = run tokenTree.files ⟨⟨["any"]⟩, true⟩ ["check", "--verbose", "//token/./../token"] := by
  have hproper : Path.IsProper ⟨[]⟩ := fun _ h => (nomatch h)
  obtain ⟨hmanifest, hschema⟩ := run_routes.1 tokenTree ⟨⟨[]⟩, false⟩ [] [.json] "token/." _ _
    hproper (by decide) (by decide) (by decide) isSubgraph_token (by decide)
  have hrelative := run_routes.2 tokenTree.files true ⟨["token"]⟩ ⟨["any"]⟩ [.verbose] []
    "//token/." "../token" (by decide) (by decide) (by decide) (by decide) (by decide) (by decide)
  exact ⟨isSubgraph_token, hmanifest, hschema, hrelative⟩

end EntitySchema.Command
