/-
# `EntitySchema.Proofs.ManifestFields` — what a manifest takes from a mapping

A manifest has three fields.  The value of a field is found under the first of its names, be it
null, or else under its other name.  The version and the description may be missing or null, and are
strings otherwise; the schema is a mapping with a string for its file.

`Describes` and `Reports` say so without reading: the one of a mapping that makes up a manifest, the
other of the problems of any other mapping, of which each field has one at most, in the order of the
fields.  A mapping is read as they say, and nothing else in it counts (`ofValue_mapping`).
-/
import EntitySchema.Proofs.Breakdown
import EntitySchema.Proofs.Mappings

namespace EntitySchema.Manifest

open Yaml (HasKey Says Silent Varies)

/-! ## The value of a field -/

/-- `key.Found entries name value`: the field has this value, under this one of its names. -/
inductive Key.Found (key : Key) (entries : Entries) : String → Yaml.Value → Prop
  | first {value : Yaml.Value} : Says entries key.name value → Found key entries key.name value
  | other {name : String} {value : Yaml.Value} :
      Silent entries key.name → key.other = some name → Says entries name value →
      Found key entries name value

/-- The field has no value. -/
structure Key.Absent (key : Key) (entries : Entries) : Prop where
  first : Silent entries key.name
  other : ∀ name, key.other = some name → Silent entries name

/-- What a mapping says in a field for a string that need not be there. -/
inductive OptionalText (entries : Entries) (key : Key) : Option Text.Str → Prop
  | absent : key.Absent entries → OptionalText entries key none
  | null {name : String} : key.Found entries name .null → OptionalText entries key none
  | text {name : String} {text : Text.Str} :
      key.Found entries name (.string text) → OptionalText entries key (some text)

/-- What is wrong with such a field. -/
inductive TextProblem (entries : Entries) (key : Key) : Problem → Prop
  | notAString {name : String} {value : Yaml.Value} :
      key.Found entries name value → value ≠ .null → (∀ text, value ≠ .string text) →
      TextProblem entries key ⟨[name], .notAString⟩

/-- What a mapping says in the field for the schema. -/
inductive FileText (entries : Entries) (key : Key) : Text.Str → Prop
  | text {name : String} {text : Text.Str} {inner : Entries} :
      key.Found entries name (.mapping inner) → Says inner "file" (.string text) →
      FileText entries key text

/-- What is wrong with the field for the schema. -/
inductive FileProblem (entries : Entries) (key : Key) : Problem → Prop
  | missing : key.Absent entries → FileProblem entries key ⟨[key.name], .missing⟩
  | notAReference {name : String} {value : Yaml.Value} :
      key.Found entries name value → (∀ inner, value ≠ .mapping inner) →
      FileProblem entries key ⟨[name], .notAReference⟩
  | noFile {name : String} {inner : Entries} :
      key.Found entries name (.mapping inner) → Silent inner "file" →
      FileProblem entries key ⟨[name, "file"], .missing⟩
  | notAString {name : String} {inner : Entries} {value : Yaml.Value} :
      key.Found entries name (.mapping inner) → Says inner "file" value →
      (∀ text, value ≠ .string text) → FileProblem entries key ⟨[name, "file"], .notAString⟩

/-- A mapping makes up a manifest. -/
structure Describes (entries : Entries) (manifest : Manifest) : Prop where
  specVersion : OptionalText entries ⟨"specVersion", some "spec_version"⟩ manifest.specVersion
  description : OptionalText entries ⟨"description", none⟩ manifest.description
  file : FileText entries ⟨"schema", some "schema_ref"⟩ manifest.file

/-- The problems of a field: its only one, or none if it is as it should be. -/
inductive FieldReport (isProblem : Problem → Prop) : List Problem → Prop
  | fine : (∀ problem, ¬ isProblem problem) → FieldReport isProblem []
  | problem {problem : Problem} : isProblem problem → FieldReport isProblem [problem]

/-- The problems of all fields of a mapping, in the order of the fields. -/
inductive Reports (entries : Entries) : List Problem → Prop
  | fields {specVersion description file : List Problem} :
      FieldReport (TextProblem entries ⟨"specVersion", some "spec_version"⟩) specVersion →
      FieldReport (TextProblem entries ⟨"description", none⟩) description →
      FieldReport (FileProblem entries ⟨"schema", some "schema_ref"⟩) file →
      Reports entries (specVersion ++ description ++ file)

/-- The names that count. -/
def Counts (name : String) : Prop :=
  name ∈ ["specVersion", "spec_version", "description", "schema", "schema_ref"]

/-- Two values of the schema are alike if they are the same but for the entries beside the file. -/
inductive Alike : String → Yaml.Value → Yaml.Value → Prop
  | schema {name : String} {inner inner' : Entries} :
      name ∈ ["schema", "schema_ref"] → Varies (· = "file") (fun _ => Eq) inner inner' →
      Alike name (.mapping inner) (.mapping inner')

variable {entries other inner : Entries} {key : Key} {name text : String} {value : Yaml.Value}
  {problem : Problem} {problems : List Problem} {manifest : Manifest}

/-! ## Results that are described from outside -/

section

variable {ε ε' α : Type} {result : Except ε α} {f : ε → ε'}

theorem mapError_eq_ok_iff {value : α} : result.mapError f = .ok value ↔ result = .ok value := by
  cases result with
  | ok made => simp [Except.mapError]
  | error problem => simp [Except.mapError]

theorem mapError_eq_error_iff {error : ε'} :
    result.mapError f = .error error ↔ ∃ problem, error = f problem ∧ result = .error problem := by
  cases result with
  | ok made => simp [Except.mapError]
  | error problem => simp [Except.mapError, eq_comm]

end

/-- The values and the problems that a result may be, each told by a property. -/
structure Settled {ε α : Type} (result : Except ε α) (isValue : α → Prop) (isProblem : ε → Prop) :
    Prop where
  value : ∀ value, result = .ok value ↔ isValue value
  problem : ∀ problem, result = .error problem ↔ isProblem problem

namespace Settled

variable {ε α : Type} {result : Except ε α} {isValue : α → Prop} {isProblem : ε → Prop}

/-- It is enough that a result is what has one of the properties, and that something has. -/
theorem of_cover (hvalue : ∀ value, isValue value → result = .ok value)
    (hproblem : ∀ problem, isProblem problem → result = .error problem)
    (hcover : (∃ value, isValue value) ∨ ∃ problem, isProblem problem) :
    Settled result isValue isProblem := by
  refine ⟨fun value => ⟨fun h => ?_, hvalue value⟩, fun problem => ⟨fun h => ?_, hproblem problem⟩⟩
  · obtain ⟨value', hvalue'⟩ | ⟨problem, hproblem'⟩ := hcover
    · cases h.symm.trans (hvalue value' hvalue')
      exact hvalue'
    · cases h.symm.trans (hproblem problem hproblem')
  · obtain ⟨value, hvalue'⟩ | ⟨problem', hproblem'⟩ := hcover
    · cases h.symm.trans (hvalue value hvalue')
    · cases h.symm.trans (hproblem problem' hproblem')
      exact hproblem'

/-- The report of a field is the problem that its result is, if it is one. -/
theorem fieldReport_iff {result : Except Problem α} {isProblem : Problem → Prop}
    (h : Settled result isValue isProblem) :
    FieldReport isProblem problems ↔ problems = (problem? result).toList := by
  cases result with
  | ok value =>
      constructor
      · intro hreport
        cases hreport with
        | fine _ => rfl
        | problem hproblem => cases (h.problem _).mpr hproblem
      · rintro rfl
        exact .fine fun problem hproblem => nomatch (h.problem problem).mpr hproblem
  | error problem =>
      have hproblem : isProblem problem := (h.problem problem).mp rfl
      constructor
      · intro hreport
        cases hreport with
        | fine hnone => exact absurd hproblem (hnone problem)
        | problem hproblem' =>
            cases (h.problem _).mpr hproblem'
            rfl
      · rintro rfl
        exact .problem hproblem

end Settled

/-! ## Reading a field -/

namespace Key

theorem find?_eq : key.find? entries
    = ((Yaml.Value.find? entries key.name).map (key.name, ·)).or
      (key.other.bind fun name => (Yaml.Value.find? entries name).map (name, ·)) := by
  obtain ⟨name, other⟩ := key
  cases other with
  | none => cases h : Yaml.Value.find? entries name <;> simp [Key.find?, h]
  | some other => cases h : Yaml.Value.find? entries name <;> simp [Key.find?, h]

theorem find?_eq_none_iff : key.find? entries = none ↔ key.Absent entries := by
  rw [find?_eq, Option.or_eq_none_iff, Option.map_eq_none_iff, Option.bind_eq_none_iff,
    Yaml.find?_eq_none_iff]
  simp only [Option.map_eq_none_iff, Yaml.find?_eq_none_iff]
  exact ⟨fun h => ⟨h.1, h.2⟩, fun h => ⟨h.first, h.other⟩⟩

theorem find?_eq_some_iff :
    key.find? entries = some (name, value) ↔ key.Found entries name value := by
  rw [find?_eq, Option.or_eq_some_iff]
  simp only [Option.map_eq_some_iff, Option.map_eq_none_iff, Option.bind_eq_some_iff,
    Yaml.find?_eq_some_iff, Yaml.find?_eq_none_iff, Prod.mk.injEq]
  constructor
  · rintro (⟨_, hsays, rfl, rfl⟩ | ⟨hsilent, name, hother, _, hsays, rfl, rfl⟩)
    · exact .first hsays
    · exact .other hsilent hother hsays
  · intro h
    cases h with
    | first hsays => exact .inl ⟨_, hsays, rfl, rfl⟩
    | other hsilent hother hsays => exact .inr ⟨hsilent, _, hother, _, hsays, rfl, rfl⟩

theorem absent_or_found (key : Key) (entries : Entries) :
    key.Absent entries ∨ ∃ name value, key.Found entries name value := by
  cases hfind : key.find? entries with
  | none => exact .inl (find?_eq_none_iff.mp hfind)
  | some found => exact .inr ⟨found.1, found.2, find?_eq_some_iff.mp hfind⟩

/-- What is made of the value of a field is the same in two mappings that vary, if it is the same
for values that are alike. -/
theorem map_find? {counts : String → Prop} {alike : String → Yaml.Value → Yaml.Value → Prop}
    {α : Type} {f : String × Yaml.Value → α} (h : Varies counts alike entries other)
    (hcounts : ∀ name ∈ key.name :: key.other.toList, counts name)
    (halike : ∀ name ∈ key.name :: key.other.toList, ∀ value value', alike name value value' →
      f (name, value) = f (name, value')) :
    (key.find? entries).map f = (key.find? other).map f := by
  have hname : ∀ name ∈ key.name :: key.other.toList,
      (Yaml.Value.find? entries name).map (f ∘ (name, ·))
        = (Yaml.Value.find? other name).map (f ∘ (name, ·)) :=
    fun name hmem => h.map_find? (hcounts name hmem) (halike name hmem)
  rw [find?_eq, find?_eq, Option.map_or, Option.map_or, Option.map_map, Option.map_map,
    hname _ List.mem_cons_self]
  refine congrArg _ ?_
  cases hother : key.other with
  | none => rfl
  | some name =>
      have hmem : name ∈ key.name :: key.other.toList := by
        rw [hother]
        exact List.mem_cons_of_mem _ List.mem_cons_self
      rw [Option.bind_some, Option.bind_some, Option.map_map, Option.map_map, hname name hmem]

end Key

theorem optionalString_settled :
    Settled (optionalString key entries) (OptionalText entries key) (TextProblem entries key) := by
  refine .of_cover (fun content h => ?_) (fun problem h => ?_) ?_
  · rw [optionalString]
    cases h with
    | absent habsent => rw [Key.find?_eq_none_iff.mpr habsent]
    | null hfound => rw [Key.find?_eq_some_iff.mpr hfound]
    | text hfound => rw [Key.find?_eq_some_iff.mpr hfound]
  · cases h with
    | @notAString name value hfound hnull hstring =>
        rw [optionalString, Key.find?_eq_some_iff.mpr hfound]
        cases value with
        | null => exact absurd rfl hnull
        | string text => exact absurd rfl (hstring text)
        | mapping inner => rfl
        | other => rfl
  · obtain habsent | ⟨name, value, hfound⟩ := key.absent_or_found entries
    · exact .inl ⟨none, .absent habsent⟩
    · cases value with
      | null => exact .inl ⟨none, .null hfound⟩
      | string text => exact .inl ⟨some text, .text hfound⟩
      | mapping inner =>
          exact .inr ⟨_, .notAString hfound (fun h => nomatch h) fun _ h => nomatch h⟩
      | other => exact .inr ⟨_, .notAString hfound (fun h => nomatch h) fun _ h => nomatch h⟩

/-- The file that a found value names, or the problem with it. -/
def fileOf : String × Yaml.Value → Except Problem Text.Str
  | (name, .mapping inner) =>
      match Yaml.Value.find? inner fileKey with
      | some (.string text) => .ok text
      | some _ => .error ⟨[name, fileKey], .notAString⟩
      | none => .error ⟨[name, fileKey], .missing⟩
  | (name, _) => .error ⟨[name], .notAReference⟩

theorem schemaFile_eq : schemaFile entries
    = ((schemaKey.find? entries).map fileOf).getD (.error ⟨[schemaKey.name], .missing⟩) := by
  rw [schemaFile]
  cases schemaKey.find? entries with
  | none => rfl
  | some found =>
      obtain ⟨name, value⟩ := found
      cases value with
      | mapping inner => rfl
      | null => rfl
      | string text => rfl
      | other => rfl

theorem schemaFile_of_found (h : schemaKey.Found entries name value) :
    schemaFile entries = fileOf (name, value) := by
  rw [schemaFile_eq, Key.find?_eq_some_iff.mpr h, Option.map_some, Option.getD_some]

theorem schemaFile_settled :
    Settled (schemaFile entries) (FileText entries schemaKey) (FileProblem entries schemaKey) := by
  refine .of_cover (fun text h => ?_) (fun problem h => ?_) ?_
  · cases h with
    | text hfound hsays =>
        rw [schemaFile_of_found hfound, fileOf, fileKey, Yaml.find?_eq_some_iff.mpr hsays]
  · cases h with
    | missing habsent =>
        rw [schemaFile_eq, Key.find?_eq_none_iff.mpr habsent, Option.map_none, Option.getD_none]
    | @notAReference name value hfound hmapping =>
        rw [schemaFile_of_found hfound]
        cases value with
        | mapping inner => exact absurd rfl (hmapping inner)
        | null => rfl
        | string text => rfl
        | other => rfl
    | noFile hfound hsilent =>
        rw [schemaFile_of_found hfound, fileOf, fileKey, Yaml.find?_eq_none_iff.mpr hsilent]
    | @notAString name inner value hfound hsays hstring =>
        rw [schemaFile_of_found hfound, fileOf, fileKey, Yaml.find?_eq_some_iff.mpr hsays]
        cases value with
        | string text => exact absurd rfl (hstring text)
        | mapping inner => rfl
        | null => rfl
        | other => rfl
  · obtain habsent | ⟨name, value, hfound⟩ := schemaKey.absent_or_found entries
    · exact .inr ⟨_, .missing habsent⟩
    · cases value with
      | null => exact .inr ⟨_, .notAReference hfound fun _ h => nomatch h⟩
      | string text => exact .inr ⟨_, .notAReference hfound fun _ h => nomatch h⟩
      | other => exact .inr ⟨_, .notAReference hfound fun _ h => nomatch h⟩
      | mapping inner =>
          obtain hsilent | ⟨file, hsays⟩ := Yaml.silent_or_says inner "file"
          · exact .inr ⟨_, .noFile hfound hsilent⟩
          · cases file with
            | string text => exact .inl ⟨text, .text hfound hsays⟩
            | null => exact .inr ⟨_, .notAString hfound hsays fun _ h => nomatch h⟩
            | mapping _ => exact .inr ⟨_, .notAString hfound hsays fun _ h => nomatch h⟩
            | other => exact .inr ⟨_, .notAString hfound hsays fun _ h => nomatch h⟩

/-! ## Reading all fields -/

theorem describes_iff : Describes entries manifest
    ↔ optionalString specVersionKey entries = .ok manifest.specVersion
      ∧ optionalString descriptionKey entries = .ok manifest.description
      ∧ schemaFile entries = .ok manifest.file := by
  rw [optionalString_settled.value, optionalString_settled.value, schemaFile_settled.value]
  exact ⟨fun h => ⟨h.specVersion, h.description, h.file⟩, fun h => ⟨h.1, h.2.1, h.2.2⟩⟩

/-- The problems of all fields, each read by itself. -/
def problemsOf (entries : Entries) : List Problem :=
  (problem? (optionalString specVersionKey entries)).toList
    ++ (problem? (optionalString descriptionKey entries)).toList
    ++ (problem? (schemaFile entries)).toList

theorem reports_iff : Reports entries problems ↔ problems = problemsOf entries := by
  constructor
  · rintro ⟨hspecVersion, hdescription, hfile⟩
    cases optionalString_settled.fieldReport_iff.mp hspecVersion
    cases optionalString_settled.fieldReport_iff.mp hdescription
    cases schemaFile_settled.fieldReport_iff.mp hfile
    rfl
  · rintro rfl
    exact .fields (optionalString_settled.fieldReport_iff.mpr rfl)
      (optionalString_settled.fieldReport_iff.mpr rfl) (schemaFile_settled.fieldReport_iff.mpr rfl)

theorem ofEntries_of_problems (h : problemsOf entries ≠ []) :
    ofEntries entries = .error (problemsOf entries) := by
  rw [ofEntries]
  split
  next hspecVersion hdescription hfile =>
    rw [problemsOf, hspecVersion, hdescription, hfile] at h
    exact absurd rfl h
  next => rfl

theorem problem?_eq_none_iff {α : Type} {result : Except Problem α} :
    problem? result = none ↔ ∃ value, result = .ok value := by
  cases result with
  | ok value => exact iff_of_true rfl ⟨value, rfl⟩
  | error problem => exact iff_of_false (fun h => nomatch h) fun ⟨_, h⟩ => nomatch h

/-- Without problems every field has a value, and these make up a manifest. -/
theorem exists_describes (h : problemsOf entries = []) : ∃ manifest, Describes entries manifest := by
  simp only [problemsOf, List.append_eq_nil_iff, Option.toList_eq_nil_iff,
    problem?_eq_none_iff] at h
  obtain ⟨⟨⟨specVersion, hspecVersion⟩, ⟨description, hdescription⟩⟩, ⟨file, hfile⟩⟩ := h
  exact ⟨⟨specVersion, description, file⟩,
    describes_iff.mpr ⟨hspecVersion, hdescription, hfile⟩⟩

/-- The fields come together: all values make up the manifest, and any problem keeps it out. -/
theorem ofEntries_settled :
    Settled (ofEntries entries) (Describes entries)
      (fun problems => problems ≠ [] ∧ Reports entries problems) := by
  refine .of_cover (fun manifest h => ?_) (fun problems h => ?_) ?_
  · obtain ⟨hspecVersion, hdescription, hfile⟩ := describes_iff.mp h
    rw [ofEntries, hspecVersion, hdescription, hfile]
  · obtain ⟨hne, hreports⟩ := h
    cases reports_iff.mp hreports
    exact ofEntries_of_problems hne
  · by_cases hproblems : problemsOf entries = []
    · exact .inl (exists_describes hproblems)
    · exact .inr ⟨problemsOf entries, hproblems, reports_iff.mpr rfl⟩

/-! ## What does not count -/

theorem optionalString_congr (h : Varies Counts Alike entries other)
    (hcounts : ∀ name ∈ key.name :: key.other.toList,
      name ∈ ["specVersion", "spec_version", "description"]) :
    optionalString key entries = optionalString key other := by
  have hfind : (key.find? entries).map id = (key.find? other).map id := by
    refine Key.map_find? h (fun name hmem => ?_) fun name hmem value value' halike => ?_
    · exact List.mem_append_left ["schema", "schema_ref"] (hcounts name hmem)
    · cases halike with
      | schema hname _ =>
          -- only values of the schema can be alike, and this is not its field
          have hno : ∀ name ∈ ["specVersion", "spec_version", "description"],
              name ∉ ["schema", "schema_ref"] := by decide
          exact absurd hname (hno name (hcounts name hmem))
  rw [Option.map_id, id, id] at hfind
  rw [optionalString, optionalString, hfind]

theorem fileOf_congr {value' : Yaml.Value} (h : Alike name value value') :
    fileOf (name, value) = fileOf (name, value') := by
  cases h with
  | schema _ hinner =>
      have hfile := hinner.map_find? (f := id) rfl fun _ _ h => h
      rw [Option.map_id, id, id] at hfile
      rw [fileOf, fileOf, fileKey, hfile]

theorem schemaFile_congr (h : Varies Counts Alike entries other) :
    schemaFile entries = schemaFile other := by
  have hfind : (schemaKey.find? entries).map fileOf = (schemaKey.find? other).map fileOf :=
    Key.map_find? h (fun _ => List.mem_append_right ["specVersion", "spec_version", "description"])
      fun _ _ _ _ => fileOf_congr
  rw [schemaFile_eq, schemaFile_eq, hfind]

theorem ofEntries_congr (h : Varies Counts Alike entries other) :
    ofEntries entries = ofEntries other := by
  rw [ofEntries, ofEntries, optionalString_congr h (by decide), optionalString_congr h (by decide),
    schemaFile_congr h]

/-! ## Reading a manifest -/

variable {path : Path}

theorem ofValue_mapping_eq_ok_iff :
    ofValue path (.mapping entries) = .ok manifest ↔ Describes entries manifest := by
  rw [ofValue, mapError_eq_ok_iff, ofEntries_settled.value]

theorem ofValue_mapping_eq_error_iff {error : ManifestError} :
    ofValue path (.mapping entries) = .error error
      ↔ ∃ problems, error = .invalid path problems ∧ problems ≠ [] ∧ Reports entries problems := by
  rw [ofValue, mapError_eq_error_iff]
  simp only [ofEntries_settled.problem]

theorem load_eq_of_mapping [Libraries] {tree : FileTree} {contents : List Char}
    (hholds : tree.Holds path contents)
    (hvalue : Libraries.value contents = .ok (.mapping entries)) :
    Manifest.load tree.files path = (ofValue path (.mapping entries)).mapError .rejected := by
  obtain ⟨written, hat, hfold⟩ := hholds
  rw [load_of_writes ⟨written, read_eq_ok_iff.mpr hat, hfold⟩, ofText, hvalue]

/-- **What makes up a manifest.**  A mapping is accepted as the manifest that it makes up.  If it
makes up none, all of its problems are reported, one for each field that is not as it should be.
Nothing that does not count in it changes this, and reading a file comes down to it, however YAML is
read. -/
theorem ofValue_mapping [Libraries] (path : Path) (entries : Entries) :
    (∀ manifest, ofValue path (.mapping entries) = .ok manifest ↔ Describes entries manifest)
      ∧ (∀ error, ofValue path (.mapping entries) = .error error
        ↔ ∃ problems, error = .invalid path problems ∧ problems ≠ [] ∧ Reports entries problems)
      ∧ (∀ other, Varies Counts Alike entries other →
        ofValue path (.mapping other) = ofValue path (.mapping entries))
      ∧ ∀ (tree : FileTree) text, tree.Holds path text →
        Libraries.value text = .ok (.mapping entries) →
        Manifest.load tree.files path = (ofValue path (.mapping entries)).mapError .rejected := by
  refine ⟨fun _ => ofValue_mapping_eq_ok_iff, fun _ => ofValue_mapping_eq_error_iff,
    fun other h => ?_, fun _ _ => load_eq_of_mapping⟩
  rw [ofValue, ofValue, ofEntries_congr h]

/-- A version that is null under its first name, and a schema under its second. -/
def secondNames : Entries :=
  [(.string "schema_ref", .mapping [(.string "file", .string "s.graphql")]),
    (.string "spec_version", .string "1"), (.string "specVersion", .null)]

/-- The same in another order, with more in the mapping and in the schema. -/
def secondNamesMore : Entries :=
  [(.string "specVersion", .null), (.other, .null), (.string "spec_version", .string "1"),
    (.string "schema_ref",
      .mapping [(.string "file", .string "s.graphql"), (.string "name", .null)])]

theorem varies_secondNames : Varies Counts Alike secondNames secondNamesMore := by
  have hreverse : Varies Counts Alike secondNames secondNames.reverse :=
    .of_perm (List.reverse_perm _).symm (by simp [secondNames, HasKey])
  have hmore : Varies Counts Alike secondNames.reverse
      [(.string "specVersion", .null), (.other, .null), (.string "spec_version", .string "1"),
        (.string "schema_ref", .mapping [(.string "file", .string "s.graphql")])] :=
    .more [(.string "specVersion", .null)] _ fun _ _ h => nomatch h
  have hinner : Varies (· = "file") (fun _ => Eq) [(.string "file", .string "s.graphql")]
      [(.string "file", .string "s.graphql"), (.string "name", .null)] :=
    .more [(.string "file", .string "s.graphql")] [] (by simp [HasKey])
  exact hreverse.trans (hmore.trans (.value [_, _, _] [] (.schema (by decide) hinner)))

/-- A problem in every field. -/
def threeProblems : Entries :=
  [(.string "schema", .mapping [(.other, .string "s.graphql")]), (.string "description", .other),
    (.string "schema_ref", .mapping [(.string "file", .string "s.graphql")]),
    (.string "spec_version", .mapping [])]

/-- A manifest as it is written. -/
def manifestText : List Char := "1: 2\nschema:\n  file: s.graphql\n".toList

/-- A directory with this manifest. -/
def manifestTree : FileTree :=
  .directory [(fileName, .file (Text.Utf8.encode manifestText))]

/-- The entries of a mapping. -/
def entries? : Yaml.Value → Option Entries
  | .mapping entries => some entries
  | .null | .string _ | .other => none

theorem ofText_manifestText :
    ∃ entries, Libraries.value manifestText = .ok (.mapping entries) := by
  have htest : ((Libraries.value manifestText).toOption.bind entries?).isSome = true := by
    decide +kernel
  cases hresult : Libraries.value manifestText with
  | error fault =>
      rw [hresult] at htest
      cases htest
  | ok value =>
      rw [hresult] at htest
      cases value with
      | mapping entries => exact ⟨entries, rfl⟩
      | null => cases htest
      | string text => cases htest
      | other => cases htest

/-- A mapping that is accepted with and without what does not count, one with three problems, and
one that is written in a file. -/
theorem ofValue_mapping_secondNames :
    (Varies Counts Alike secondNames secondNamesMore
        ∧ Describes secondNames ⟨none, none, "s.graphql"⟩
        ∧ ofValue ⟨[fileName]⟩ (.mapping secondNamesMore) = .ok ⟨none, none, "s.graphql"⟩)
      ∧ Reports threeProblems
        [⟨["spec_version"], .notAString⟩, ⟨["description"], .notAString⟩,
          ⟨["schema", "file"], .missing⟩]
      ∧ manifestTree.Holds ⟨[fileName]⟩ manifestText
      ∧ ∃ entries, Libraries.value manifestText = .ok (.mapping entries)
        ∧ Manifest.load manifestTree.files ⟨[fileName]⟩
          = (ofValue ⟨[fileName]⟩ (.mapping entries)).mapError .rejected := by
  obtain ⟨haccepted, -, hframe, -⟩ := ofValue_mapping ⟨[fileName]⟩ secondNames
  have hdescribes : Describes secondNames ⟨none, none, "s.graphql"⟩ := (haccepted _).mp rfl
  have hthree : ofValue ⟨[fileName]⟩ (.mapping threeProblems) = .error (.invalid ⟨[fileName]⟩
      [⟨["spec_version"], .notAString⟩, ⟨["description"], .notAString⟩,
        ⟨["schema", "file"], .missing⟩]) := rfl
  obtain ⟨problems, herror, -, hreports⟩ :=
    ((ofValue_mapping ⟨[fileName]⟩ threeProblems).2.1 _).mp hthree
  cases herror
  obtain ⟨entries, hvalue⟩ := ofText_manifestText
  have hholds : manifestTree.Holds ⟨[fileName]⟩ manifestText :=
    ⟨manifestText, rfl, by decide +kernel⟩
  exact ⟨⟨varies_secondNames, hdescribes,
    (hframe _ varies_secondNames).trans ((haccepted _).mpr hdescribes)⟩, hreports, hholds, entries,
    hvalue, (ofValue_mapping _ entries).2.2.2 _ _ hholds hvalue⟩

end EntitySchema.Manifest
