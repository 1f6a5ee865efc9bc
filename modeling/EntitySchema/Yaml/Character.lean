/-
# `EntitySchema.Yaml.Character` — the characters of a YAML text

Which characters a text may have at all, which of them break lines and separate words, and where
in a text words and lines end.  The end of the text ends both.  Line ends are taken to be folded
already, so a carriage return is no line break of its own.
-/
import EntitySchema.Text.Lines

namespace EntitySchema.Yaml

/-- Whether a text may have a character. -/
def isAllowed (c : Char) : Bool :=
  let n := c.toNat
  c == '\t' || c == '\n' || c == '\r' || (0x20 ≤ n && n ≤ 0x7E) || n == 0x85
    || (0xA0 ≤ n && n ≤ 0xD7FF) || (0xE000 ≤ n && n ≤ 0xFFFD) || 0x10000 ≤ n

/-- The mark that may stand at the very beginning of a text, and has no width anywhere. -/
def byteOrderMark : Char := '\uFEFF'

/-- Whether a character ends a line. -/
def isBreak (c : Char) : Bool := c == '\n' || c == '\x85' || c == '\u2028' || c == '\u2029'

/-- What a line break stands for in the text of a scalar. -/
def breakText (c : Char) : List Char := if c = '\x85' then ['\n'] else [c]

/-- Whether a character separates words on a line. -/
def isBlank (c : Char) : Bool := c == ' ' || c == '\t'

/-- Whether a character separates words. -/
def isGap (c : Char) : Bool := isBlank c || isBreak c

/-- Whether a character may stand in the name of an anchor or of a directive. -/
def isWordPart (c : Char) : Bool := c.isAlphanum || c == '-' || c == '_'

/-- Whether a character may stand in the address of a tag. -/
def isAddressPart (c : Char) : Bool := c.isAlphanum || "-;/?:@&=+$,_.!~*'()[]%".toList.contains c

/-- Whether a word ends where a text begins. -/
def atGap (text : List Char) : Bool := text.head?.all isGap

/-- Whether a word ends where a text begins, other than at a tab. -/
def atSpace (text : List Char) : Bool := text.head?.all fun c => c == ' ' || isBreak c

/-- Whether a line ends where a text begins. -/
def atLineEnd (text : List Char) : Bool := text.head?.all isBreak

/-- Whether a text begins with a character. -/
def startsWith (c : Char) (text : List Char) : Bool := text.head? == some c

/-- Whether a text begins with a word of three equal characters. -/
def startsMarker (c : Char) (text : List Char) : Bool :=
  text.take 3 == [c, c, c] && atGap (text.drop 3)

/-- Whether a text begins with a marker of the beginning or the end of a document. -/
def atMarker (text : List Char) : Bool := startsMarker '-' text || startsMarker '.' text

/-- The length of the rest of a line. -/
def lineLength (text : List Char) : Nat := Text.countWhile (!isBreak ·) text

/-- The number of spaces at the beginning of a text. -/
def spaces (text : List Char) : Nat := Text.countWhile (· == ' ') text

/-- The number of spaces and tabs at the beginning of a text. -/
def blanks (text : List Char) : Nat := Text.countWhile isBlank text

/-- The length of the end of a line on which nothing but a comment may follow, with its break;
nothing if something else follows. -/
def emptyRest? (text : List Char) : Option Nat :=
  let n := spaces text
  let comment := if startsWith '#' (text.drop n) then lineLength (text.drop n) else 0
  let rest := text.drop (n + comment)
  if atLineEnd rest then some (n + comment + (rest.take 1).length) else none

end EntitySchema.Yaml
