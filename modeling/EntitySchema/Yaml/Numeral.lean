/-
# `EntitySchema.Yaml.Numeral` — numbers

What plain scalars are numbers, and which scalars that are said to be numbers have no value.
Underscores may stand between digits and mean nothing.  An integer may be binary, octal,
hexadecimal, or written in base sixty with colons.

What is said to be a number may also have digits of other scripts, and blanks around it; a plain
scalar is no number then.
-/
import EntitySchema.Yaml.Character
import EntitySchema.Yaml.Fault

namespace EntitySchema.Yaml.Numeral

/-! ## What is a number -/

/-- A text without the sign in front of it. -/
def unsigned (text : List Char) : List Char :=
  match text with
  | c :: rest => if c = '+' ∨ c = '-' then rest else text
  | [] => []

/-- A decimal digit or an underscore. -/
def isDigitOrGap (c : Char) : Bool := c.isDigit || c == '_'

/-- Whether a text is a digit followed by digits and underscores. -/
def isDigits (text : List Char) : Bool :=
  text.head?.any Char.isDigit && text.all isDigitOrGap

/-- Whether a text is not empty and has characters of a kind only. -/
def isSome (p : Char → Bool) (text : List Char) : Bool := !text.isEmpty && text.all p

/-- Whether a text is a place after the first in base sixty. -/
def isSixtieth (text : List Char) : Bool :=
  match text with
  | [a] => a.isDigit
  | [a, b] => '0' ≤ a && a ≤ '5' && b.isDigit
  | _ => false

/-- Whether a text is a number in base sixty of two places at least, given what the first of them
may be. -/
def isSexagesimal (first : List Char → Bool) (text : List Char) : Bool :=
  match Text.cutAt ':' text with
  | whole :: more => first whole && !more.isEmpty && more.all isSixtieth
  | [] => false

/-- Whether a text is an integer. -/
def isInt (text : List Char) : Bool :=
  let positive := fun (t : List Char) => isDigits t && t.head? != some '0'
  match unsigned text with
  | '0' :: 'b' :: rest => isSome (fun c => c == '0' || c == '1' || c == '_') rest
  | '0' :: 'x' :: rest => isSome (fun c => (Text.hexValue? c).isSome || c == '_') rest
  | '0' :: rest => rest.all fun c => ('0' ≤ c && c ≤ '7') || c == '_'
  | t => positive t || isSexagesimal positive t

/-- Whether a text is the exponent of a number, or nothing. -/
def isExponent : List Char → Bool
  | [] => true
  | e :: sign :: digits =>
      (e == 'e' || e == 'E') && (sign == '+' || sign == '-') && isSome Char.isDigit digits
  | _ => false

/-- Whether a text is the fraction of a number, after its point, with its exponent. -/
def isFraction (text : List Char) : Bool := isExponent (text.dropWhile isDigitOrGap)

/-- Whether a text is a number with a point. -/
def isFloat (text : List Char) : Bool :=
  let t := unsigned text
  let whole := t.takeWhile (· ≠ '.')
  match t.dropWhile (· ≠ '.') with
  | [] => false
  | _ :: fraction =>
      if whole.isEmpty then
        [['i', 'n', 'f'], ['I', 'n', 'f'], ['I', 'N', 'F']].contains fraction
          || (text == t && ([['n', 'a', 'n'], ['N', 'a', 'N'], ['N', 'A', 'N']].contains fraction
            || (fraction.head?.any Char.isDigit && isFraction fraction)))
      else
        (isDigits whole && isFraction fraction)
          || (isSexagesimal isDigits whole && fraction.all isDigitOrGap)

/-! ## Whether it has a value -/

/-- The zeros of all scripts that have decimal digits, by Unicode 14; after a zero come the other
nine digits in order. -/
def zeros : List Nat :=
  [ 0x30, 0x660, 0x6F0, 0x7C0, 0x966, 0x9E6, 0xA66, 0xAE6, 0xB66, 0xBE6, 0xC66, 0xCE6, 0xD66, 0xDE6,
    0xE50, 0xED0, 0xF20, 0x1040, 0x1090, 0x17E0, 0x1810, 0x1946, 0x19D0, 0x1A80, 0x1A90, 0x1B50,
    0x1BB0, 0x1C40, 0x1C50, 0xA620, 0xA8D0, 0xA900, 0xA9D0, 0xA9F0, 0xAA50, 0xABF0, 0xFF10, 0x104A0,
    0x10D30, 0x11066, 0x110F0, 0x11136, 0x111D0, 0x112F0, 0x11450, 0x114D0, 0x11650, 0x116C0,
    0x11730, 0x118E0, 0x11950, 0x11C50, 0x11D50, 0x11DA0, 0x16A60, 0x16AC0, 0x16B50, 0x1D7CE,
    0x1D7D8, 0x1D7E2, 0x1D7EC, 0x1D7F6, 0x1E140, 0x1E2F0, 0x1E950, 0x1FBF0 ]

/-- The blanks beyond ASCII. -/
def wideBlanks : List Nat :=
  [ 0x85, 0xA0, 0x1680, 0x2000, 0x2001, 0x2002, 0x2003, 0x2004, 0x2005, 0x2006, 0x2007, 0x2008,
    0x2009, 0x200A, 0x2028, 0x2029, 0x202F, 0x205F, 0x3000 ]

/-- A character, with a digit or a blank of any script as that of ASCII. -/
def plainCharacter (c : Char) : Char :=
  if wideBlanks.contains c.toNat then ' '
  else match zeros.find? fun first => first ≤ c.toNat && c.toNat < first + 10 with
    | some first => Nat.digitChar (c.toNat - first)
    | none => c

/-- A text in digits and blanks of ASCII, without the blanks at both ends. -/
def trimmed (text : List Char) : List Char :=
  let isSpace := fun (c : Char) => c == ' ' || ('\t' ≤ c && c ≤ '\r')
  (((text.map plainCharacter).dropWhile isSpace).reverse.dropWhile isSpace).reverse

/-- Whether a character is a digit in a base of at most sixteen. -/
def isDigitIn (base : Nat) (c : Char) : Bool := (Text.hexValue? c).any (· < base)

/-- The digits of an integer in a base without the mark of that base in front. -/
def unmarked (base : Nat) (text : List Char) : List Char :=
  match text with
  | '0' :: c :: rest =>
      if (base = 16 ∧ (c = 'x' ∨ c = 'X')) ∨ (base = 8 ∧ (c = 'o' ∨ c = 'O'))
          ∨ (base = 2 ∧ (c = 'b' ∨ c = 'B')) then rest
      else text
  | _ => text

/-- What is wrong with an integer in a base.  The digits are counted before what follows them is
looked at. -/
def integerFault? (base : Nat) (text : List Char) : Option Exception :=
  let digits := unmarked base (unsigned (trimmed text))
  let count := Text.countWhile (isDigitIn base) digits
  if base = 10 ∧ Exception.mostDigits < count then some (.tooManyDigits count)
  else if count = 0 ∨ count < digits.length then some (.noInteger base (String.ofList text))
  else none

/-- A text without its underscores. -/
def withoutGaps (text : List Char) : List Char := text.filter (· ≠ '_')

/-- What is wrong with a scalar that is said to be an integer. -/
def intFault? (text : List Char) : Option Exception :=
  match unsigned (withoutGaps text) with
  | [] => some .noFirst
  | ['0'] => none
  | '0' :: 'b' :: rest => integerFault? 2 rest
  | '0' :: 'x' :: rest => integerFault? 16 rest
  | t =>
      if startsWith '0' t then integerFault? 8 t
      else (Text.cutAt ':' t).findSome? (integerFault? 10)

/-- Whether a text is a number with digits on one side of its point at least, if it has one. -/
def isMantissa (text : List Char) : Bool :=
  match Text.cutAt '.' text with
  | [whole] => isSome Char.isDigit whole
  | [whole, fraction] => isSome Char.isDigit (whole ++ fraction)
  | _ => false

/-- Whether a text, in lower case, is a decimal number or one of the words for what is none. -/
def isDecimal (text : List Char) : Bool :=
  let t := unsigned (trimmed text)
  ["inf", "infinity", "nan"].contains (String.ofList t)
    || match Text.cutAt 'e' t with
      | [mantissa] => isMantissa mantissa
      | [mantissa, power] => isMantissa mantissa && isSome Char.isDigit (unsigned power)
      | _ => false

/-- The most places in base sixty of a number with a fraction. -/
def mostPlaces : Nat := 174

/-- What is wrong with a scalar that is said to be a number with a fraction. -/
def floatFault? (text : List Char) : Option Exception :=
  let written := (withoutGaps text).map Char.toLower
  let t := unsigned written
  let fault? := fun (part : List Char) =>
    if isDecimal part then none else some (Exception.noDecimal (String.ofList part))
  if written.isEmpty then some .noFirst
  else if t = ".inf".toList ∨ t = ".nan".toList then none
  else if t.contains ':' then
    let places := Text.cutAt ':' t
    places.findSome? fault? <|> if mostPlaces < places.length then some .tooLarge else none
  else fault? t

end EntitySchema.Yaml.Numeral
