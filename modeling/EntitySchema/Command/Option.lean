/-
# `EntitySchema.Command.Option` — options on the command line

A word is taken for an option by its looks, before anything else is done with the words.  A long
option may be cut short as long as it cannot be mistaken for another; options of one letter may
stand in one word.  An equals sign gives an option a value, which no option here takes.  Negative
numbers and words with a blank are options only if there are such options.
-/
import EntitySchema.Text.Lines

namespace EntitySchema.Command

/-- What an option asks for. -/
inductive Flag where
  | help
  | json
  | verbose
  deriving DecidableEq

/-- An option: its spellings, and what it asks for. -/
structure OptionRule where
  spellings : List String
  flag : Flag

/-- The option that every subcommand has. -/
def helpRule : OptionRule := ⟨["-h", "--help"], .help⟩

/-- The option for reports in JSON. -/
def jsonRule : OptionRule := ⟨["--json"], .json⟩

/-- The option for a log. -/
def verboseRule : OptionRule := ⟨["--verbose"], .verbose⟩

/-- All spellings of an option, as messages name it. -/
def OptionRule.name (rule : OptionRule) : String := "/".intercalate rule.spellings

/-- What follows the spelling of an option in its word. -/
inductive Tail where
  | nothing
  /-- An equals sign and a value. -/
  | value (text : String)
  /-- More letters right after an option of one letter. -/
  | letters (text : List Char)

/-- An option in one of its spellings, with what follows it. -/
structure Match where
  rule : OptionRule
  spelling : String
  tail : Tail

/-- What a word on the command line is. -/
inductive Role where
  /-- Anything that is no option. -/
  | argument
  /-- The two dashes after which there are no options. -/
  | terminator
  | option (found : Match)
  | unknownOption

/-- A word on the command line. -/
structure Word where
  text : String
  role : Role

/-- A word that could be several options: the spellings that it could be cut from. -/
structure Ambiguity where
  word : String
  spellings : List String

namespace Word

/-- Every spelling of some options. -/
def spellings (rules : List OptionRule) : List (String × OptionRule) :=
  rules.flatMap fun rule => rule.spellings.map (·, rule)

/-- The option of a spelling. -/
def spelled? (rules : List OptionRule) (tail : Tail) (spelling : String) : Option Match :=
  ((spellings rules).lookup spelling).map (⟨·, spelling, tail⟩)

/-- A word up to its first equals sign, and what follows it. -/
def cutAtEquals (word : String) : String × Tail :=
  let before := String.ofList (word.toList.takeWhile (· ≠ '='))
  match word.toList.dropWhile (· ≠ '=') with
  | [] => (before, .nothing)
  | _ :: value => (before, .value (String.ofList value))

/-- The options whose spelling begins with some text. -/
def beginning (rules : List OptionRule) (text : String) (tail : Tail) : List Match :=
  ((spellings rules).filter fun (spelling, _) => text.toList.isPrefixOf spelling.toList).map
    fun (spelling, rule) => ⟨rule, spelling, tail⟩

/-- The options that a word may be short for.  With two dashes it may be cut short; with one the
rest of the word follows an option of one letter. -/
def candidates (rules : List OptionRule) (word : String) : List Match :=
  if (word.toList.drop 1).head? = some '-' then
    let (text, tail) := cutAtEquals word
    beginning rules text tail
  else
    let letter := String.ofList (word.toList.take 2)
    (spelled? rules (.letters (word.toList.drop 2)) letter).toList
      ++ beginning rules word .nothing

/-- A text without a line feed at its end. -/
def withoutLastBreak (text : List Char) : List Char :=
  if text.getLast? = some '\n' then text.dropLast else text

/-- Whether a word is a negative number: digits, among or in front of which there may be a point. -/
def isNegativeNumber (word : String) : Bool :=
  match Text.cutAt '.' (withoutLastBreak (word.toList.drop 1)) with
  | [whole] => !whole.isEmpty && whole.all Char.isDigit
  | [whole, fraction] =>
      whole.all Char.isDigit && !fraction.isEmpty && fraction.all Char.isDigit
  | _ => false

/-- What a word that begins with a dash is, if it is not an option as it stands. -/
def dashedRole (rules : List OptionRule) (word : String) : Except Ambiguity Role :=
  match candidates rules word with
  | [found] => .ok (.option found)
  | [] =>
      if isNegativeNumber word || word.toList.contains ' ' then .ok .argument
      else .ok .unknownOption
  | several => .error ⟨word, several.map (·.spelling)⟩

/-- What a word is where there may be options. -/
def roleOf (rules : List OptionRule) (word : String) : Except Ambiguity Role :=
  if word.toList.head? ≠ some '-' ∨ word = "-" then .ok .argument
  else
    let (spelling, tail) := cutAtEquals word
    match spelled? rules .nothing word, spelled? rules tail spelling with
    | some found, _ | none, some found => .ok (.option found)
    | none, none => dashedRole rules word

/-- The words of a command line, with what they are. -/
def ofTexts (rules : List OptionRule) : List String → Except Ambiguity (List Word)
  | [] => .ok []
  | text :: rest =>
      if text = "--" then .ok (⟨text, .terminator⟩ :: rest.map (⟨·, .argument⟩))
      else do
        let first ← roleOf rules text
        let more ← ofTexts rules rest
        return ⟨text, first⟩ :: more

end Word

/-! ## What options ask for -/

/-- A value given to an option that takes none. -/
structure UnwantedValue where
  rule : OptionRule
  value : String

/-- What the word of an option asks for, and what of it has no use. -/
structure Asked where
  flags : List Flag
  extra : List String

/-- What an option of one letter asks for with what follows it: more such options, a value, or
letters without use. -/
def askedByLetters (rules : List OptionRule) (rule : OptionRule) :
    List Char → Except UnwantedValue Asked
  | [] => .ok ⟨[rule.flag], []⟩
  | c :: rest =>
      if c = '=' then .error ⟨rule, String.ofList rest⟩
      else if c = '-' then .error ⟨rule, String.ofList (c :: rest)⟩
      else match Word.spelled? rules .nothing (String.ofList ['-', c]) with
        | some next =>
            (fun asked => ⟨rule.flag :: asked.flags, asked.extra⟩)
              <$> askedByLetters rules next.rule rest
        | none => .ok ⟨[rule.flag], [String.ofList ('-' :: c :: rest)]⟩

/-- What an option asks for. -/
def Match.asked (rules : List OptionRule) (found : Match) : Except UnwantedValue Asked :=
  match found.tail with
  | .nothing => .ok ⟨[found.rule.flag], []⟩
  | .value text => .error ⟨found.rule, text⟩
  | .letters text => askedByLetters rules found.rule text

end EntitySchema.Command
