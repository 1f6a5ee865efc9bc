/-
# `EntitySchema.Json.Basic` — JSON values and how they are written

Values are written over several lines, each level indented by two spaces further; a collection
without members stays on its line.  Strings are written in ASCII: everything else is escaped by its
sixteen-bit units.
-/
import EntitySchema.Text.CodePoint

namespace EntitySchema

/-- The JSON values that reports are made of. -/
inductive Json where
  | number (n : Nat)
  | string (text : String)
  | array (items : List Json)
  | object (members : List (String × Json))

namespace Json

/-- The escape of a character by a letter. -/
def letterEscape? : Char → Option Char
  | '"' => some '"'
  | '\\' => some '\\'
  | '\n' => some 'n'
  | '\r' => some 'r'
  | '\t' => some 't'
  | '\x0c' => some 'f'
  | '\x08' => some 'b'
  | _ => none

/-- A character as it is written in a string. -/
def escaped (c : Char) : List Char :=
  match letterEscape? c with
  | some letter => ['\\', letter]
  | none =>
      if ' ' ≤ c ∧ c ≤ '~' then [c]
      else (Text.units16 c).flatMap fun unit => '\\' :: 'u' :: Text.hexDigits 4 unit

/-- A string as it is written. -/
def quoted (text : String) : List Char := '"' :: text.toList.flatMap escaped ++ ['"']

/-- The break in front of a line of a level. -/
def newLine (level : Nat) : List Char := '\n' :: List.replicate (2 * level) ' '

/-- Members of a collection on lines of their own, between its brackets. -/
def bracketed (level : Nat) (opening closing : Char) (members : List (List Char)) : List Char :=
  if members.isEmpty then [opening, closing]
  else
    opening :: ([','].intercalate (members.map (newLine (level + 1) ++ ·)))
      ++ newLine level ++ [closing]

mutual

/-- A value as it is written at a level. -/
def written (level : Nat) : Json → List Char
  | number n => (toString n).toList
  | string text => quoted text
  | array items => bracketed level '[' ']' (writtenItems (level + 1) items)
  | object members => bracketed level '{' '}' (writtenMembers (level + 1) members)

/-- The items of an array as they are written. -/
def writtenItems (level : Nat) : List Json → List (List Char)
  | [] => []
  | item :: rest => written level item :: writtenItems level rest

/-- The members of an object as they are written. -/
def writtenMembers (level : Nat) : List (String × Json) → List (List Char)
  | [] => []
  | (name, value) :: rest =>
      (quoted name ++ [':', ' '] ++ written level value) :: writtenMembers level rest

end

/-- A value as it is written. -/
def render (json : Json) : String := String.ofList (json.written 0)

end Json

end EntitySchema
