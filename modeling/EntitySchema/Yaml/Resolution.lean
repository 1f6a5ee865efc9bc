/-
# `EntitySchema.Yaml.Resolution` — what a scalar is by its text

A plain scalar without a tag is what its text looks like: nothing, a truth value, a number, a
moment, one of two special keys, and otherwise a string.
-/
import EntitySchema.Yaml.Moment
import EntitySchema.Yaml.Numeral
import EntitySchema.Yaml.Tag

namespace EntitySchema.Yaml

/-- The words for no value. -/
def nullWords : List String := ["", "~", "null", "Null", "NULL"]

/-- The words for the truth values. -/
def boolWords : List String :=
  [ "yes", "Yes", "YES", "no", "No", "NO", "true", "True", "TRUE", "false", "False", "FALSE",
    "on", "On", "ON", "off", "Off", "OFF" ]

/-- A text that is not a single line feed, without a line feed at its end. -/
def withoutLastBreak (text : List Char) : List Char :=
  if 1 < text.length ∧ text.getLast? = some '\n' then text.dropLast else text

/-- What a plain scalar of a text is. -/
def Tag.ofText (text : List Char) : Tag :=
  let t := withoutLastBreak text
  let word := String.ofList t
  if nullWords.contains word then .null
  else if boolWords.contains word then .bool
  else if Numeral.isFloat t then .float
  else if Numeral.isInt t then .int
  else if Moment.isWritten t then .timestamp
  else if word = "<<" then .merge
  else if word = "=" then .default
  else if ["!", "&", "*"].contains word then .unknown
  else .string

/-- What a scalar is by its looks: a torn one is nothing but a string. -/
def Tag.ofPlain : Text.Str → Tag
  | .text text => ofText text.toList
  | .torn _ => .string

/-! ## Whether it is what it is said to be -/

/-- The words for the truth values in lower case. -/
def lowerBoolWords : List String := ["yes", "no", "true", "false", "on", "off"]

/-- Whether a character stands for six bits. -/
def isSextet (c : Char) : Bool := c.isAlphanum || c == '+' || c == '/'

/-- Whether the rest of a text fills the last group of four sextets, given how many of it there are,
and how many marks of an incomplete group have come after them.  Other characters do not count. -/
def fillsGroup (count marks : Nat) : List Char → Bool
  | [] => count == 0
  | c :: rest =>
      if c = '=' ∧ 2 ≤ count then 4 ≤ count + marks + 1 || fillsGroup count (marks + 1) rest
      else if isSextet c then fillsGroup ((count + 1) % 4) 0 rest
      else fillsGroup count marks rest

/-- Whether a text writes bytes. -/
def isBinary (text : List Char) : Bool := text.all (·.toNat < 0x80) && fillsGroup 0 0 text

/-- What is wrong with a scalar that is said to be something. -/
def Tag.scalarFault? (tag : Tag) (text : List Char) : Option Fault :=
  match tag with
  | .null | .string => none
  | .bool =>
      let word := String.ofList (text.map Char.toLower)
      if lowerBoolWords.contains word then none else some (.raised (.noTruth word))
  | .int => (Numeral.intFault? text).map .raised
  | .float => (Numeral.floatFault? text).map .raised
  | .timestamp =>
      match Moment.ofText? (withoutLastBreak text) with
      | some moment => moment.fault?.map .raised
      | none => some (.raised .noMoment)
  | .binary => if isBinary text then none else some .malformed
  | .merge | .default | .sequence | .mapping | .set | .pairs | .unknown => some .malformed

end EntitySchema.Yaml
