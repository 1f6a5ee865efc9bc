/-
# `EntitySchema.Proofs.CommandLine` — command lines that check a path

`checkLine` is the command line that checks a path, with flags spelled out before and after it.  The
program reads it up to the name of the subcommand, and the subcommand reads the rest: the flags one
by one, and the path as its argument, as long as it does not look like an option.  So the flags ask
for the same whatever the path is, and no word is left over (`ofTexts_checkLine`).
-/
import EntitySchema.Command.Check

namespace EntitySchema.Command

/-- The option that asks for a flag. -/
def Flag.rule : Flag → OptionRule
  | .help => helpRule
  | .json => jsonRule
  | .verbose => verboseRule

/-- The long spelling of a flag. -/
def Flag.spelling : Flag → String
  | .help => "--help"
  | .json => "--json"
  | .verbose => "--verbose"

/-- The command line that checks a path, with flags before and after it. -/
def checkLine (before after : List Flag) (path : String) : List String :=
  "check" :: (before.map Flag.spelling ++ path :: after.map Flag.spelling)

/-- A text that does not look like an option. -/
def IsPlain (text : String) : Prop := text.toList.head? ≠ some '-'

instance (text : String) : Decidable (IsPlain text) :=
  inferInstanceAs (Decidable (text.toList.head? ≠ some '-'))

variable {rules : List OptionRule} {text path : String} {texts rest : List String} {role : Role}
  {flag : Flag} {flags before after : List Flag} {wanted : Bool} {words : List Word}

/-! ## Words -/

/-- The word of a flag, as the subcommand reads it. -/
def Flag.word (flag : Flag) : Word :=
  ⟨flag.spelling, .option ⟨flag.rule, flag.spelling, .nothing⟩⟩

theorem IsPlain.ne_dashes (h : IsPlain text) : text ≠ "--" := by
  rintro rfl
  exact h rfl

theorem roleOf_of_isPlain (h : IsPlain text) : Word.roleOf rules text = .ok .argument :=
  if_pos (.inl h)

theorem Flag.spelling_ne_dashes (flag : Flag) : flag.spelling ≠ "--" := by
  cases flag with
  | help => decide
  | json => decide
  | verbose => decide

theorem Flag.roleOf_spelling (flag : Flag) :
    Word.roleOf Usage.check.rules flag.spelling = .ok flag.word.role := by
  cases flag with
  | help => rfl
  | json => rfl
  | verbose => rfl

/-- Only help is an option of the program; other flags are unknown to it, and it leaves them to the
subcommand. -/
theorem Flag.exists_roleOf_spelling (flag : Flag) :
    ∃ role, Word.roleOf Usage.program.rules flag.spelling = .ok role := by
  cases flag with
  | help => exact ⟨_, rfl⟩
  | json => exact ⟨_, rfl⟩
  | verbose => exact ⟨_, rfl⟩

theorem wordsOfTexts_cons (hne : text ≠ "--") (hrole : Word.roleOf rules text = .ok role) :
    Word.ofTexts rules (text :: rest) = (⟨text, role⟩ :: ·) <$> Word.ofTexts rules rest := by
  rw [Word.ofTexts, if_neg hne, hrole]
  cases Word.ofTexts rules rest with
  | error ambiguity => rfl
  | ok words => rfl

theorem wordsOfTexts_flags :
    Word.ofTexts Usage.check.rules (flags.map Flag.spelling ++ rest)
      = (flags.map Flag.word ++ ·) <$> Word.ofTexts Usage.check.rules rest := by
  induction flags with
  | nil => exact (id_map _).symm
  | cons flag more ih =>
      rw [List.map_cons, List.cons_append,
        wordsOfTexts_cons flag.spelling_ne_dashes flag.roleOf_spelling, ih, ← comp_map]
      rfl

/-- The words that the program reads are the texts, if none of them is in doubt. -/
theorem exists_wordsOfTexts
    (h : ∀ text ∈ texts, text ≠ "--" ∧ ∃ role, Word.roleOf rules text = .ok role) :
    ∃ words, Word.ofTexts rules texts = .ok words ∧ words.map (·.text) = texts := by
  induction texts with
  | nil => exact ⟨[], rfl, rfl⟩
  | cons text rest ih =>
      obtain ⟨⟨hne, role, hrole⟩, hrest⟩ := List.forall_mem_cons.mp h
      obtain ⟨words, hwords, htexts⟩ := ih hrest
      refine ⟨⟨text, role⟩ :: words, ?_, by rw [List.map_cons, htexts]⟩
      rw [wordsOfTexts_cons hne hrole, hwords]
      rfl

/-! ## Reading -/

theorem read_flag_cons :
    Usage.check.read wanted (flag.word :: words)
      = if flag = .help then .error (.help .check)
        else (Reading.withAsked ⟨[flag], []⟩) <$> Usage.check.read wanted words := by
  cases flag with
  | help => rfl
  | json => rfl
  | verbose => rfl

theorem read_flags_of_help (h : .help ∈ flags) :
    Usage.check.read wanted (flags.map Flag.word ++ words) = .error (.help .check) := by
  induction flags with
  | nil => cases h
  | cons flag more ih =>
      rw [List.map_cons, List.cons_append, read_flag_cons]
      by_cases hflag : flag = .help
      · rw [if_pos hflag]
      · have hmore : .help ∈ more := (List.mem_cons.mp h).resolve_left (Ne.symm hflag)
        rw [if_neg hflag, ih hmore]
        rfl

theorem read_flags (h : .help ∉ flags) :
    Usage.check.read wanted (flags.map Flag.word ++ words)
      = (Reading.withAsked ⟨flags, []⟩) <$> Usage.check.read wanted words := by
  induction flags with
  | nil => exact (id_map _).symm
  | cons flag more ih =>
      rw [List.mem_cons, not_or] at h
      rw [List.map_cons, List.cons_append, read_flag_cons, if_neg (Ne.symm h.1), ih h.2, ← comp_map]
      rfl

/-- A subcommand takes all words after its name, two dashes among them. -/
theorem read_command :
    Usage.program.read true (⟨text, .argument⟩ :: words)
      = .ok ⟨[], text :: words.map (·.text), []⟩ := by
  cases words with
  | nil => rfl
  | cons word more =>
      obtain ⟨_, role⟩ := word
      cases role with
      | argument => rfl
      | terminator => rfl
      | option _ => rfl
      | unknownOption => rfl

theorem read_argument_flags :
    Usage.check.read true (⟨path, .argument⟩ :: after.map Flag.word)
      = (Reading.withTaken [path]) <$> Usage.check.read false (after.map Flag.word) := by
  cases after with
  | nil => rfl
  | cons flag more => rfl

/-- Where no argument is wanted any more, flags are all that is read. -/
theorem read_last_flags (h : .help ∉ after) :
    Usage.check.read false (after.map Flag.word) = .ok ⟨after, [], []⟩ := by
  rw [← List.append_nil (after.map Flag.word), read_flags h]
  show Except.ok (Reading.withAsked ⟨after, []⟩ Reading.nothing) = _
  rw [Reading.withAsked, Reading.nothing, List.append_nil, List.append_nil]

theorem wordsOfTexts_checkLine (hplain : IsPlain path) :
    Word.ofTexts Usage.check.rules (before.map Flag.spelling ++ path :: after.map Flag.spelling)
      = .ok (before.map Flag.word ++ ⟨path, .argument⟩ :: after.map Flag.word) := by
  have hafter : Word.ofTexts Usage.check.rules (after.map Flag.spelling)
      = .ok (after.map Flag.word) := by
    rw [← List.append_nil (after.map Flag.spelling), wordsOfTexts_flags]
    exact congrArg Except.ok (List.append_nil _)
  rw [wordsOfTexts_flags, wordsOfTexts_cons hplain.ne_dashes (roleOf_of_isPlain hplain), hafter]
  rfl

/-- The subcommand reads the flags on both sides of the path, or stops at the first for help. -/
theorem check_ofTexts (hplain : IsPlain path) :
    Usage.check.ofTexts (before.map Flag.spelling ++ path :: after.map Flag.spelling)
      = if .help ∈ before ++ after then .error (.help .check)
        else .ok ⟨before ++ after, [path], []⟩ := by
  rw [Usage.ofTexts, wordsOfTexts_checkLine hplain]
  show Usage.check.read true _ = _
  by_cases hbefore : .help ∈ before
  · rw [read_flags_of_help hbefore, if_pos (List.mem_append_left _ hbefore)]
  · rw [read_flags hbefore, read_argument_flags]
    by_cases hhelp : .help ∈ after
    · rw [← List.append_nil (after.map Flag.word), read_flags_of_help hhelp,
        if_pos (List.mem_append_right _ hhelp)]
      rfl
    · have hneither : .help ∉ before ++ after := by
        rw [List.mem_append, not_or]
        exact ⟨hbefore, hhelp⟩
      rw [read_last_flags hhelp, if_neg hneither]
      rfl

theorem program_ofTexts (hplain : IsPlain path) :
    Usage.program.ofTexts (checkLine before after path)
      = .ok ⟨[], checkLine before after path, []⟩ := by
  have hflag (flag : Flag) : flag.spelling ≠ "--"
      ∧ ∃ role, Word.roleOf Usage.program.rules flag.spelling = .ok role :=
    ⟨flag.spelling_ne_dashes, flag.exists_roleOf_spelling⟩
  have htext : ∀ text ∈ before.map Flag.spelling ++ path :: after.map Flag.spelling,
      text ≠ "--" ∧ ∃ role, Word.roleOf Usage.program.rules text = .ok role := by
    intro text htext
    rcases List.mem_append.mp htext with hmem | hmem
    · obtain ⟨flag, -, rfl⟩ := List.mem_map.mp hmem
      exact hflag flag
    · rcases List.mem_cons.mp hmem with rfl | hmem
      · exact ⟨hplain.ne_dashes, _, roleOf_of_isPlain hplain⟩
      · obtain ⟨flag, -, rfl⟩ := List.mem_map.mp hmem
        exact hflag flag
  obtain ⟨words, hwords, htexts⟩ := exists_wordsOfTexts htext
  have hcheck : IsPlain "check" := by decide
  rw [checkLine, Usage.ofTexts, wordsOfTexts_cons hcheck.ne_dashes (roleOf_of_isPlain hcheck),
    hwords, ← htexts]
  exact read_command

/-- The program hands the words after the subcommand on to it, and complains of those it has no use
for. -/
theorem ofWords_checkLine (hplain : IsPlain path) :
    Request.ofWords (checkLine before after path)
      = Request.ofCommand .check (before.map Flag.spelling ++ path :: after.map Flag.spelling)
          >>= fun read =>
            if !read.2.isEmpty then throw (Usage.program.misused (.unrecognized read.2))
            else pure read.1 := by
  rw [Request.ofWords, program_ofTexts hplain]
  rfl

/-- What the command line asks for: help if there is a flag for it, else a check of the path. -/
theorem ofTexts_checkLine (hplain : IsPlain path) :
    Request.ofTexts (checkLine before after path)
      = .ok (if .help ∈ before ++ after then .help .check
        else .check
          ⟨path, (before ++ after).contains .json, (before ++ after).contains .verbose⟩) := by
  rw [Request.ofTexts, ofWords_checkLine hplain, Request.ofCommand, check_ofTexts hplain]
  by_cases hhelp : .help ∈ before ++ after
  · rw [if_pos hhelp, if_pos hhelp]
    rfl
  · rw [if_neg hhelp, if_neg hhelp]
    rfl

end EntitySchema.Command
