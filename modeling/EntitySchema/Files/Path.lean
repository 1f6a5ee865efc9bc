/-
# `EntitySchema.Files.Path` — absolute paths

A path is written as text with slashes.  Pieces that are empty or a single dot mean nothing and are
dropped when a path is read.  Two dots stand for the directory above; `resolve` takes them away
together with the piece before them, and the root has nothing above it.

A system keeps paths as bytes, and a byte that is no text is shown as one half of a character, with a
number from `U+DC80` on.  So a string that is torn may still be a path; but with any other half in it
it is none, no more than a text with the null character.
-/
import EntitySchema.Text.CodePoint
import EntitySchema.Text.Lines

namespace EntitySchema

/-- An absolute path, by its pieces from the root on. -/
structure Path where
  pieces : List String
  deriving DecidableEq

/-- Why a string cannot be a path. -/
inductive PathFault where
  /-- It has the null character. -/
  | null
  /-- It has halves of characters: `size` of them at the offset `start`, the first of them
  `first`. -/
  | halves (first start size : Nat)
  deriving DecidableEq

/-- The wording of such a fault: a single half is shown, several are only counted. -/
def PathFault.message : PathFault → String
  | .null => "embedded null byte"
  | .halves first start size =>
      let place :=
        if size = 1 then
          "character '\\u" ++ String.ofList (Text.hexDigits 4 first) ++ "' in position "
            ++ toString start
        else "characters in position " ++ toString start ++ "-" ++ toString (start + size - 1)
      "'utf-8' codec can't encode " ++ place ++ ": surrogates not allowed"

namespace Path

/-- Whether a piece means anything. -/
def counts (piece : String) : Bool := piece != "" && piece != "."

/-- The pieces of a text that mean something. -/
def piecesOf (text : String) : List String :=
  ((Text.cutAt '/' text.toList).map String.ofList).filter counts

/-- Whether a text is an absolute path. -/
def isAbsolute (text : String) : Bool := text.toList.head? == some '/'

/-- The path that a text means in a directory: an absolute one does not depend on it. -/
def join (directory : Path) (text : String) : Path :=
  ⟨(if isAbsolute text then [] else directory.pieces) ++ piecesOf text⟩

/-- Whether a text holds the character that no path may hold. -/
def hasNul (text : String) : Bool := text.toList.contains '\x00'

/-- The path that a text means in a directory, unless the text cannot be a path. -/
def join? (directory : Path) (text : String) : Option Path :=
  if hasNul text then none else some (directory.join text)

/-- Goes along one more piece. -/
def step (pieces : List String) (piece : String) : List String :=
  if piece = ".." then pieces.dropLast else pieces ++ [piece]

/-- The path without pieces that lead up. -/
def resolve (path : Path) : Path := ⟨path.pieces.foldl step []⟩

/-- The path as it is written. -/
def toString (path : Path) : String := "/" ++ "/".intercalate path.pieces

/-- The directory that a path is in. -/
def parent (path : Path) : Path := ⟨path.pieces.dropLast⟩

/-- A path one piece further down. -/
def child (path : Path) (piece : String) : Path := ⟨path.pieces ++ [piece]⟩

/-- The last piece of a path. -/
def fileName (path : Path) : String := path.pieces.getLast?.getD ""

/-- What follows the last dot of the file name; nothing if that dot is its first or its last
character. -/
def suffix (path : Path) : String :=
  let name := path.fileName.toList
  let after := (name.reverse.takeWhile (· ≠ '.')).reverse
  if after.length + 1 < name.length then String.ofList after else ""

/-! ## Torn strings

The pieces of a torn string are lists of code points.  They are walked along one by one, and the
first of them that no file can be named by is the fault. -/

/-- Whether a code point is a half that does not stand for a byte. -/
def isLoose (code : Nat) : Bool :=
  Text.isSurrogate code && !(0xDC80 ≤ code && code ≤ 0xDCFF)

/-- The fault of a piece, if it has one, in a directory whose path has a number of characters. -/
def faultOf? (length : Nat) (piece : List Nat) : Option PathFault :=
  match piece.findIdx? isLoose with
  | some offset =>
      let halves := (piece.drop offset).takeWhile Text.isSurrogate
      some (.halves (halves.headD 0) (length + 1 + offset) halves.length)
  | none => if piece.contains 0 then some .null else none

/-- Goes along one more piece of code points. -/
def stepCodes (pieces : List (List Nat)) (piece : List Nat) :
    Except PathFault (List (List Nat)) :=
  if Text.shown piece = ".." then .ok pieces.dropLast
  else match faultOf? (pieces.foldl (· + ·.length + 1) 0) piece with
    | some fault => .error fault
    | none => .ok (pieces ++ [piece])

/-- The pieces of a string of code points that mean something. -/
def piecesOfCodes (codes : List Nat) : List (List Nat) :=
  (Text.cutAt '/'.toNat codes).filter fun piece => counts (Text.shown piece)

/-- The pieces of code points from which a string of them leads on. -/
def startOfCodes (directory : Path) (codes : List Nat) : List (List Nat) :=
  if codes.head? = some '/'.toNat then []
  else directory.pieces.map (·.toList.map Char.toNat)

/-- The path that a torn string means in a directory, without pieces that lead up. -/
def ofCodes (directory : Path) (codes : List Nat) : Except PathFault Path :=
  ((startOfCodes directory codes ++ piecesOfCodes codes).foldlM stepCodes []).map
    fun pieces => ⟨pieces.map Text.shown⟩

/-- The path that a string means in a directory, without pieces that lead up. -/
def ofStr (directory : Path) : Text.Str → Except PathFault Path
  | .text text =>
      match directory.join? text with
      | some path => .ok path.resolve
      | none => .error .null
  | .torn codes => ofCodes directory codes

end Path

end EntitySchema
