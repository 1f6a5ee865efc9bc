/-
# `EntitySchema.Command.Request` — what a command line asks for

A command line names a subcommand, and this has its own options and one argument.  Words that find
no use are collected, and are an error in the end; before that comes what is wrong with a single
word, and help as soon as it is asked for.
-/
import EntitySchema.Command.Help
import EntitySchema.Command.Option

namespace EntitySchema.Command

/-- What to check, and how to report it. -/
structure CheckRequest where
  path : String
  json : Bool
  verbose : Bool
  deriving DecidableEq

/-- What a command line asks for. -/
inductive Request where
  | help (topic : Topic)
  | check (request : CheckRequest)
  | suggest (name : String)
  deriving DecidableEq

/-! ## Misuse -/

/-- What can be wrong with a command line. -/
inductive Misuse where
  | ambiguous (ambiguity : Ambiguity)
  | unwantedValue (value : UnwantedValue)
  | unknownCommand (name : String)
  | missingName
  | unrecognized (words : List String)

/-- The names of the subcommands. -/
def commands : List (String × Topic) := [("check", .check), ("suggest", .suggest)]

/-- The wording of what is wrong with a command line. -/
def Misuse.message : Misuse → String
  | .ambiguous ambiguity =>
      "ambiguous option: " ++ ambiguity.word ++ " could match "
        ++ ", ".intercalate ambiguity.spellings
  | .unwantedValue unwanted =>
      "argument " ++ unwanted.rule.name ++ ": ignored explicit argument "
        ++ Text.quoted unwanted.value
  | .unknownCommand name =>
      "argument COMMAND: invalid choice: " ++ Text.quoted name ++ " (choose from "
        ++ ", ".intercalate (commands.map fun (command, _) => Text.quoted command) ++ ")"
  | .missingName => "the following arguments are required: name"
  | .unrecognized words => "unrecognized arguments: " ++ " ".intercalate words

/-- What is wrong with a command line, and whose usage this is about. -/
structure UsageError where
  topic : Topic
  misuse : Misuse

/-- The text that reports a usage error. -/
def UsageError.report (error : UsageError) : String :=
  error.topic.usage ++ error.topic.called ++ ": error: " ++ error.misuse.message ++ "\n"

/-- Why words are not read to their end. -/
inductive Interruption where
  | help (topic : Topic)
  | misused (error : UsageError)

/-! ## Arguments -/

/-- How many arguments are taken: one, one or none, or the name of a subcommand with all words after
it. -/
inductive Slot where
  | one
  | optional
  | command
  deriving DecidableEq

/-- What words are read for: whose they are, its options and its arguments. -/
structure Usage where
  topic : Topic
  rules : List OptionRule
  slot : Slot

/-- The usage of the program. -/
def Usage.program : Usage := ⟨.program, [helpRule], .command⟩

/-- The usage of the subcommand that checks. -/
def Usage.check : Usage := ⟨.check, [helpRule, jsonRule, verboseRule], .optional⟩

/-- The usage of the subcommand that suggests. -/
def Usage.suggest : Usage := ⟨.suggest, [helpRule], .one⟩

/-- What has been read of words: flags, the arguments taken, and the words without use. -/
structure Reading where
  flags : List Flag
  taken : List String
  extra : List String

namespace Reading

/-- Nothing has been read. -/
def nothing : Reading := ⟨[], [], []⟩

/-- A reading with what one more option asks for. -/
def withAsked (asked : Asked) (r : Reading) : Reading :=
  { r with flags := asked.flags ++ r.flags, extra := asked.extra ++ r.extra }

/-- A reading with other arguments taken. -/
def withTaken (taken : List String) (r : Reading) : Reading := { r with taken := taken }

/-- A reading with one more word without use. -/
def withExtra (word : String) (r : Reading) : Reading := { r with extra := word :: r.extra }

end Reading

namespace Usage

/-- The interruption by something wrong. -/
def misused (usage : Usage) (misuse : Misuse) : Interruption := .misused ⟨usage.topic, misuse⟩

/-- Words after two dashes, if an argument is wanted or not; a subcommand takes the dashes along. -/
def afterTerminator (usage : Usage) (wanted : Bool) (dashes : String) (rest : List String) :
    Reading :=
  match wanted, usage.slot, rest with
  | false, _, _ | true, .one, [] | true, .command, [] => ⟨[], [], dashes :: rest⟩
  | true, .optional, [] => .nothing
  | true, .command, _ :: _ => ⟨[], dashes :: rest, []⟩
  | true, .one, argument :: more | true, .optional, argument :: more => ⟨[], [argument], more⟩

/-- Reads words from left to right, while an argument is wanted or not any more.  Two dashes right
after an argument belong to it. -/
def read (usage : Usage) (wanted : Bool) : List Word → Except Interruption Reading
  | [] => .ok .nothing
  | ⟨_, .option found⟩ :: rest =>
      match found.asked usage.rules with
      | .error unwanted => .error (usage.misused (.unwantedValue unwanted))
      | .ok asked =>
          if asked.flags.contains .help then .error (.help usage.topic)
          else (Reading.withAsked asked) <$> read usage wanted rest
  | ⟨text, .unknownOption⟩ :: rest => (Reading.withExtra text) <$> read usage wanted rest
  | ⟨text, .terminator⟩ :: rest =>
      .ok (usage.afterTerminator wanted text (rest.map (·.text)))
  | ⟨text, .argument⟩ :: rest =>
      if !wanted then (Reading.withExtra text) <$> read usage wanted rest
      else if usage.slot = .command then .ok ⟨[], text :: rest.map (·.text), []⟩
      else
        match rest with
        | ⟨_, .terminator⟩ :: more => .ok ⟨[], [text], more.map (·.text)⟩
        | rest => (Reading.withTaken [text]) <$> read usage false rest

/-- Reads the words of a command line. -/
def ofTexts (usage : Usage) (texts : List String) : Except Interruption Reading :=
  match Word.ofTexts usage.rules texts with
  | .error ambiguity => .error (usage.misused (.ambiguous ambiguity))
  | .ok words => usage.read true words

end Usage

namespace Request

/-- What the words after the name of a subcommand ask for, and those without use. -/
def ofCommand (topic : Topic) (texts : List String) :
    Except Interruption (Request × List String) := do
  match topic with
  | .program => return (.help .program, texts)
  | .check =>
      let r ← Usage.check.ofTexts texts
      let path := r.taken.headD "."
      return (.check ⟨path, r.flags.contains .json, r.flags.contains .verbose⟩, r.extra)
  | .suggest =>
      let r ← Usage.suggest.ofTexts texts
      match r.taken with
      | name :: _ => return (.suggest name, r.extra)
      | [] => throw (Usage.suggest.misused .missingName)

/-- What a command line asks for, unless it is interrupted. -/
def ofWords (texts : List String) : Except Interruption Request := do
  let r ← Usage.program.ofTexts texts
  let (request, extra) ←
    match r.taken with
    | [] => pure (.help .program, [])
    | name :: rest =>
        match commands.lookup name with
        | some topic => ofCommand topic rest
        | none => throw (Usage.program.misused (.unknownCommand name))
  let unused := r.extra ++ extra
  if !unused.isEmpty then throw (Usage.program.misused (.unrecognized unused))
  return request

/-- What a command line asks for. -/
def ofTexts (texts : List String) : Except UsageError Request :=
  match ofWords texts with
  | .ok request => .ok request
  | .error (.help topic) => .ok (.help topic)
  | .error (.misused error) => .error error

end Request

end EntitySchema.Command
