/-
# `EntitySchema.Yaml.Tokens` — a YAML text as a sequence of tokens

The text is read token by token.  What is known about its layout on the way is a `Layout`: the
columns of the blocks that are open, how many brackets are, and whether what comes next may turn
out to be a key.  A key is only recognised by the colon after it; until then its token is kept as
a pending key, one for each level of brackets, and when the colon comes, the marks of a key are put
in front of that token.  A pending key must be resolved on its line and within 1024 characters.

A fault of the text comes up where the tokens end.  A token that is still a pending key then is
not known any better, so the tokens end in front of the first of these.
-/
import EntitySchema.Yaml.Property
import EntitySchema.Yaml.Scalar.Block
import EntitySchema.Yaml.Scalar.Quoted

namespace EntitySchema.Yaml

/-- The tokens of a text, and the fault after the last of them. -/
structure Tokens where
  list : List Token
  fault : Fault

/-- A place in a text. -/
structure Place where
  index : Nat
  line : Nat
  column : Nat

/-- The place after a character. -/
def Place.next (place : Place) (c : Char) : Place :=
  if isBreak c then ⟨place.index + 1, place.line + 1, 0⟩
  else if c = byteOrderMark then ⟨place.index + 1, place.line, place.column⟩
  else ⟨place.index + 1, place.line, place.column + 1⟩

/-- A token that may turn out to begin a key. -/
structure PendingKey where
  /-- How many tokens are in front of it. -/
  number : Nat
  /-- Whether nothing but a key can stand there. -/
  required : Bool
  place : Place

/-- The most characters from the beginning of a key to its colon. -/
def longestKey : Nat := 1024

/-- Whether a pending key can no longer be resolved at a place. -/
def PendingKey.isStale (key : PendingKey) (place : Place) : Bool :=
  key.place.line != place.line || place.index - key.place.index > longestKey

/-- What is known about a text that has been read in part. -/
structure Layout where
  /-- What is left of the text. -/
  text : List Char
  place : Place
  /-- The tokens so far, the last one first, each with the marks put in front of it. -/
  entries : List (List Token × Token)
  /-- The number of entries. -/
  count : Nat
  /-- The columns of the open blocks, the innermost first. -/
  indents : List Nat
  /-- The pending keys of the levels of brackets around the current one, the innermost first. -/
  outer : List (Option PendingKey)
  /-- The pending key of the current level. -/
  pending : Option PendingKey
  /-- Whether a key may begin here. -/
  keyAllowed : Bool

namespace Layout

/-- The layout in front of a text. -/
def ofText (text : List Char) : Layout := ⟨text, ⟨0, 0, 0⟩, [], 0, [], [], none, true⟩

/-- Whether there are open brackets. -/
def inBrackets (l : Layout) : Bool := !l.outer.isEmpty

/-- The least column of what stands inside the innermost block. -/
def inner (l : Layout) : Nat := (l.indents.head?.map (· + 1)).getD 0

/-- All pending keys. -/
def pendingKeys (l : Layout) : List PendingKey := (l.pending :: l.outer).filterMap id

/-- The tokens of the first entries, with their marks. -/
def tokens (l : Layout) (known : Nat) : List Token :=
  (l.entries.reverse.take known).flatMap fun (marks, token) => marks ++ [token]

/-- The tokens up to a fault, which comes up when one more is asked for. -/
def stopped (l : Layout) (fault : Fault) : Tokens :=
  let pending := l.pendingKeys.filter (!·.isStale l.place)
  ⟨l.tokens ((pending.map (·.number)).foldl min l.count), fault⟩

/-- All tokens. -/
def complete (l : Layout) : Tokens := ⟨l.tokens l.count, .malformed⟩

/-! ## Steps -/

/-- Goes on by some characters. -/
def forward (l : Layout) (n : Nat) : Layout :=
  { l with text := l.text.drop n, place := (l.text.take n).foldl Place.next l.place }

/-- Adds a token. -/
def push (l : Layout) (token : Token) : Layout :=
  { l with entries := ([], token) :: l.entries, count := l.count + 1 }

/-- Puts marks in front of a token that some number of others precede. -/
def mark (l : Layout) (number : Nat) (marks : List Token) : Layout :=
  { l with
    entries := l.entries.modify (l.count - 1 - number) fun (before, token) =>
      (before ++ marks, token) }

/-- Says whether a key may begin next. -/
def allowKey (l : Layout) (allowed : Bool) : Layout := { l with keyAllowed := allowed }

/-- Gives up the pending key of the level, which must not be a required one. -/
def dropKey (l : Layout) : Except Fault Layout :=
  if l.pending.any (·.required) then .error .malformed else .ok { l with pending := none }

/-- Makes what comes next a pending key, if it may be one. -/
def saveKey (l : Layout) : Except Fault Layout :=
  if l.keyAllowed then
    let required := !l.inBrackets && l.indents.head? == some l.place.column
    (fun l => { l with pending := some ⟨l.count, required, l.place⟩ }) <$> l.dropKey
  else .ok l

/-- Ends the blocks further right than a column, or all blocks; brackets keep them open. -/
def unwind (l : Layout) (column : Option Nat) : Layout :=
  if l.inBrackets then l
  else
    let ended := l.indents.takeWhile fun indent => column.all (· < indent)
    ended.foldl (fun l _ => l.push .blockEnd) { l with indents := l.indents.drop ended.length }

/-- Whether a block would begin at a column. -/
def beginsBlock (l : Layout) (column : Nat) : Bool :=
  !l.inBrackets && l.indents.head?.all (· < column)

/-- Opens a block at the current column, if one begins there, and marks its beginning. -/
def openBlock (l : Layout) (start : Token) : Layout :=
  if l.beginsBlock l.place.column then
    { l with indents := l.place.column :: l.indents }.push start
  else l

/-- Stops at an entry of a block where none may begin. -/
def checkEntry (l : Layout) : Except Fault Unit :=
  if l.inBrackets || l.keyAllowed then .ok () else .error .malformed

/-! ## What stands between tokens -/

/-- The length of the blanks, comments and line breaks at the beginning of a text. -/
def separationLength (text : List Char) : Nat :=
  match text with
  | [] => 0
  | c :: rest =>
      if c = ' ' ∨ isBreak c then separationLength rest + 1
      else if c = '#' then
        let n := lineLength rest
        separationLength (rest.drop n) + n + 1
      else 0
termination_by text.length
decreasing_by all_goals (simp only [List.length_cons, List.length_drop]; omega)

/-- Skips what stands between tokens; on a new line outside of brackets a key may begin. -/
def skip (l : Layout) : Layout :=
  let mark := if l.place.index = 0 ∧ startsWith byteOrderMark l.text then 1 else 0
  let n := mark + separationLength (l.text.drop mark)
  let newLine := !l.inBrackets && (l.text.take n).any isBreak
  (l.forward n).allowKey (l.keyAllowed || newLine)

/-- Gives up the pending keys that are stale, none of which must be a required one. -/
def dropStale (l : Layout) : Except Fault Layout :=
  let isStale := fun (key : PendingKey) => key.isStale l.place
  if l.pendingKeys.any fun key => isStale key && key.required then .error .malformed
  else
    let fresh := fun (key : Option PendingKey) => key.filter (!isStale ·)
    .ok { l with pending := fresh l.pending, outer := l.outer.map fresh }

/-- Goes to the beginning of the next token, and ends the blocks that do not reach so far. -/
def approach (l : Layout) : Except Fault Layout :=
  (fun l => l.unwind (some l.place.column)) <$> l.skip.dropStale

/-! ## Tokens -/

/-- Ends all blocks at the end of the text. -/
def finish (l : Layout) : Except Fault Layout := do
  let l ← (l.unwind none).dropKey
  return l.push .endOfText

/-- Reads a directive. -/
def readDirective (l : Layout) : Except Fault Layout := do
  let l ← (l.unwind none).dropKey
  let (found, n) ← directive (l.text.drop 1)
  return ((l.allowKey false).forward (n + 1)).push (.directive found)

/-- Reads a marker of a document. -/
def readMarker (l : Layout) (token : Token) : Except Fault Layout := do
  let l ← (l.unwind none).dropKey
  return ((l.allowKey false).forward 3).push token

/-- Reads an opening bracket. -/
def readOpening (l : Layout) (token : Token) : Except Fault Layout := do
  let l ← l.saveKey
  let l := { l with outer := l.pending :: l.outer, pending := none, keyAllowed := true }
  return (l.forward 1).push token

/-- Reads a closing bracket. -/
def readClosing (l : Layout) (token : Token) : Except Fault Layout := do
  let l ← l.dropKey
  match l.outer with
  | [] => throw .malformed
  | key :: outer =>
      let l := { l with outer := outer, pending := key, keyAllowed := false }
      return (l.forward 1).push token

/-- Reads the comma between entries in brackets. -/
def readComma (l : Layout) : Except Fault Layout := do
  let l ← l.dropKey
  return ((l.allowKey true).forward 1).push .flowEntry

/-- Reads the dash of an entry of a sequence. -/
def readDash (l : Layout) : Except Fault Layout := do
  l.checkEntry
  let l ← (l.openBlock .blockSequenceStart).dropKey
  return ((l.allowKey true).forward 1).push .blockEntry

/-- Reads the question mark of a key. -/
def readQuestion (l : Layout) : Except Fault Layout := do
  l.checkEntry
  let l ← (l.openBlock .blockMappingStart).dropKey
  return ((l.allowKey !l.inBrackets).forward 1).push .key

/-- Reads the colon of a value: it makes the pending key a key, or stands for itself. -/
def readColon (l : Layout) : Except Fault Layout := do
  match l.pending with
  | some key =>
      let column := key.place.column
      let begins := l.beginsBlock column
      let marks := (if begins then [.blockMappingStart] else []) ++ [.key]
      let indents := if begins then column :: l.indents else l.indents
      let l := { l.mark key.number marks with pending := none, indents := indents }
      return ((l.allowKey false).forward 1).push .value
  | none =>
      l.checkEntry
      let l := l.openBlock .blockMappingStart
      return ((l.allowKey !l.inBrackets).forward 1).push .value

/-- Reads a token that may begin a key, given its length and the token. -/
def readKeyPart (l : Layout) (read : Except Fault (Token × Nat)) : Except Fault Layout := do
  let l ← l.saveKey
  let (token, n) ← read
  return ((l.allowKey false).forward n).push token

/-- Reads a block scalar. -/
def readBlock (l : Layout) (folded : Bool) : Except Fault Layout := do
  let l ← l.dropKey
  let (text, n) ← Block.read folded l.inner (l.text.drop 1)
  return ((l.allowKey true).forward (n + 1)).push (.scalar false (String.ofList text))

/-- Reads a plain scalar. -/
def readPlain (l : Layout) : Except Fault Layout := do
  let l ← l.saveKey
  let found := Plain.read l.inBrackets l.inner l.text
  return ((l.allowKey found.endsLine).forward found.size).push (.scalar true (String.ofList found.text))

/-- A scalar in quotes, read after the first of them. -/
def quotedScalar (double : Bool) (rest : List Char) : Except Fault (Token × Nat) :=
  (fun (found, n) => (.scalar false found, n + 1)) <$> Quoted.read double rest

/-- An alias, an anchor or a tag, or a scalar in quotes, where a text begins with one. -/
def keyPart? (c : Char) (text : List Char) : Option (Except Fault (Token × Nat)) :=
  match c with
  | '*' => some ((fun (name, n) => (.alias name, n + 1)) <$> anchorName (text.drop 1))
  | '&' => some ((fun (name, n) => (.anchor name, n + 1)) <$> anchorName (text.drop 1))
  | '!' => some ((fun (found, n) => (.tag found, n)) <$> tag text)
  | '\'' => some (quotedScalar false (text.drop 1))
  | '"' => some (quotedScalar true (text.drop 1))
  | _ => none

/-- Reads the token that a character begins which is no indicator at the beginning of a line. -/
def readInner (l : Layout) (c : Char) : Except Fault Layout :=
  let apart := l.inBrackets || atGap (l.text.drop 1)
  match c with
  | '[' => l.readOpening .flowSequenceStart
  | '{' => l.readOpening .flowMappingStart
  | ']' => l.readClosing .flowSequenceEnd
  | '}' => l.readClosing .flowMappingEnd
  | ',' => l.readComma
  | c =>
      if c = '-' ∧ atGap (l.text.drop 1) then l.readDash
      else if c = '?' ∧ apart then l.readQuestion
      else if c = ':' ∧ apart then l.readColon
      else if (c = '|' ∨ c = '>') ∧ !l.inBrackets then l.readBlock (c = '>')
      else match keyPart? c l.text with
        | some read => l.readKeyPart read
        | none => if Plain.starts l.inBrackets l.text then l.readPlain else .error .malformed

/-- Reads the token that begins with a character. -/
def read (l : Layout) (c : Char) : Except Fault Layout :=
  if l.place.column = 0 ∧ c = '%' then l.readDirective
  else if l.place.column = 0 ∧ startsMarker '-' l.text then l.readMarker .documentStart
  else if l.place.column = 0 ∧ startsMarker '.' l.text then l.readMarker .documentEnd
  else l.readInner c

/-- Reads all tokens, with a bound for their number. -/
def run : Nat → Layout → Tokens
  | 0, l => l.stopped .malformed
  | n + 1, l =>
      match l.approach with
      | .error fault => l.stopped fault
      | .ok next =>
          match next.text with
          | [] =>
              match next.finish with
              | .error fault => l.stopped fault
              | .ok last => last.complete
          | c :: _ =>
              match next.read c with
              | .error fault => l.stopped fault
              | .ok rest => run n rest

end Layout

/-- The tokens of a text. -/
def Tokens.ofText (text : List Char) : Tokens :=
  if text.all isAllowed then Layout.run (text.length + 1) (Layout.ofText text)
  else ⟨[], .malformed⟩

end EntitySchema.Yaml
