/-
# `EntitySchema.Text.CodePoint` — code points by number

Hexadecimal digits, numerals of a fixed width, and the halves by which sixteen-bit units write a
code point beyond the first plane.  A string can have such a half by itself, which is no character;
it is torn then, and no text.
-/

namespace EntitySchema.Text

/-- The value of a hexadecimal digit. -/
def hexValue? (c : Char) : Option Nat :=
  if '0' ≤ c ∧ c ≤ '9' then some (c.toNat - '0'.toNat)
  else if 'A' ≤ c ∧ c ≤ 'F' then some (c.toNat - 'A'.toNat + 10)
  else if 'a' ≤ c ∧ c ≤ 'f' then some (c.toNat - 'a'.toNat + 10)
  else none

/-- The number that hexadecimal digits write; nothing if one of them is no digit. -/
def hexNumber? (digits : List Char) : Option Nat :=
  digits.foldlM (fun n c => (hexValue? c).map (n * 16 + ·)) 0

/-- The lower-case hexadecimal numeral of a number, filled up with zeros to a width. -/
def hexDigits (width n : Nat) : List Char := (Nat.toDigits 16 n).leftpad width '0'

/-- The usual name of a code point, as in `U+00E9`. -/
def codePointName (c : Char) : String :=
  "U+" ++ String.ofList ((hexDigits 4 c.toNat).map Char.toUpper)

/-- A number that is a Unicode scalar value, as a character. -/
def scalar? (n : Nat) : Option Char := if n.isValidChar then some (Char.ofNat n) else none

theorem scalar?_toNat (c : Char) : scalar? c.toNat = some c := by
  have hvalid : c.toNat.isValidChar := c.valid
  rw [scalar?, if_pos hvalid, Char.ofNat_toNat]

theorem scalar?_eq_some {n : Nat} {c : Char} (h : scalar? n = some c) : c.toNat = n := by
  rw [scalar?] at h
  split at h
  next hvalid =>
    cases h
    rw [Char.ofNat, dif_pos hvalid]
    rfl
  next => cases h

/-- The first half of a surrogate pair. -/
def isHighSurrogate (n : Nat) : Bool := 0xD800 ≤ n && n ≤ 0xDBFF

/-- The second half of a surrogate pair. -/
def isLowSurrogate (n : Nat) : Bool := 0xDC00 ≤ n && n ≤ 0xDFFF

/-- One half of a surrogate pair. -/
def isSurrogate (n : Nat) : Bool := isHighSurrogate n || isLowSurrogate n

/-- The code point that a surrogate pair stands for. -/
def ofSurrogates (high low : Nat) : Nat := 0x10000 + (high - 0xD800) * 0x400 + (low - 0xDC00)

/-- The sixteen-bit units of a character: itself, or its surrogate pair beyond `U+FFFF`. -/
def units16 (c : Char) : List Nat :=
  if c.toNat < 0x10000 then [c.toNat]
  else
    let n := c.toNat - 0x10000
    [0xD800 + n / 0x400, 0xDC00 + n % 0x400]

/-- The text that shows code points: characters as they are, halves by their numbers. -/
def shown (codes : List Nat) : String :=
  String.ofList (codes.flatMap fun n =>
    match scalar? n with
    | some c => [c]
    | none => '\\' :: 'u' :: hexDigits 4 n)

/-! ## Strings -/

/-- A string: a text, or code points with halves of surrogate pairs among them. -/
inductive Str where
  | text (string : String)
  | torn (codes : List Nat)
  deriving DecidableEq

namespace Str

instance : Coe String Str := ⟨.text⟩

/-- The string of some code points. -/
def ofCodes (codes : List Nat) : Str :=
  match codes.mapM scalar? with
  | some chars => .text (String.ofList chars)
  | none => .torn codes

/-- The characters of a string, with the replacement character in the place of each half. -/
def characters : Str → List Char
  | .text string => string.toList
  | .torn codes => codes.map fun n => (scalar? n).getD '\uFFFD'

/-- The text that shows a string. -/
def shown : Str → String
  | .text string => string
  | .torn codes => Text.shown codes

end Str

end EntitySchema.Text
