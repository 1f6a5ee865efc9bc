/-
# `EntitySchema.Text.Utf8` — reading bytes as text

`decode` reads bytes as UTF-8 and refuses every sequence that is not the shortest form of a
Unicode scalar value.  It goes byte by byte: between characters, or inside one that still owes
bytes, the next of which has to lie in a range.  A fault names the bytes from the start of the
character up to the last one that could still have been right.

A text file is UTF-8, and each of its line ends counts as one line feed, however it is written.
-/
import EntitySchema.Text.CodePoint
import EntitySchema.Text.Lines

namespace EntitySchema.Text

namespace Utf8

/-- Why bytes are not UTF-8. -/
inductive Reason where
  /-- No character starts with this byte. -/
  | invalidStart
  /-- The next byte does not continue the character. -/
  | invalidContinuation
  /-- The bytes end inside a character. -/
  | unexpectedEnd

/-- The wording of a reason. -/
def Reason.text : Reason → String
  | .invalidStart => "invalid start byte"
  | .invalidContinuation => "invalid continuation byte"
  | .unexpectedEnd => "unexpected end of data"

/-- Bytes that are not UTF-8: `size` of them at the offset `start`, the first of them `first`. -/
structure Fault where
  first : UInt8
  start : Nat
  size : Nat
  reason : Reason

/-- The wording of a fault: a single byte is shown, several are only counted. -/
def Fault.message (fault : Fault) : String :=
  let place :=
    if fault.size = 1 then
      "byte 0x" ++ String.ofList (hexDigits 2 fault.first.toNat) ++ " in position "
        ++ toString fault.start
    else
      "bytes in position " ++ toString fault.start ++ "-"
        ++ toString (fault.start + fault.size - 1)
  "'utf-8' codec can't decode " ++ place ++ ": " ++ fault.reason.text

/-- A character that has begun: where, the `size` bytes it has so far, the number they write, the
bytes it still owes, and the range in which the next of them has to lie. -/
structure Pending where
  first : UInt8
  start : Nat
  size : Nat
  code : Nat
  owed : Nat
  low : UInt8
  high : UInt8

/-- The fault of a character that has begun and does not go on. -/
def Pending.fault (p : Pending) (reason : Reason) : Fault := ⟨p.first, p.start, p.size, reason⟩

/-- The character that a byte beyond ASCII begins.  The range of the second byte keeps out longer
forms, surrogates and numbers above `U+10FFFF`. -/
def Pending.open? (start : Nat) (b : UInt8) : Option Pending :=
  if b < 0xC2 then none
  else if b < 0xE0 then some ⟨b, start, 1, b.toNat - 0xC0, 1, 0x80, 0xBF⟩
  else if b < 0xF0 then
    some ⟨b, start, 1, b.toNat - 0xE0, 2, if b = 0xE0 then 0xA0 else 0x80,
      if b = 0xED then 0x9F else 0xBF⟩
  else if b < 0xF5 then
    some ⟨b, start, 1, b.toNat - 0xF0, 3, if b = 0xF0 then 0x90 else 0x80,
      if b = 0xF4 then 0x8F else 0xBF⟩
  else none

/-- The number so far with the six bits of one more byte. -/
def Pending.extended (p : Pending) (b : UInt8) : Nat := p.code * 64 + (b.toNat - 0x80)

/-- Reads bytes from an offset on, between characters or inside a pending one. -/
def decodeFrom : Nat → Option Pending → List UInt8 → Except Fault (List Char)
  | _, none, [] => .ok []
  | _, some p, [] => .error (p.fault .unexpectedEnd)
  | i, none, b :: rest =>
      if b < 0x80 then (Char.ofNat b.toNat :: ·) <$> decodeFrom (i + 1) none rest
      else match Pending.open? i b with
        | none => .error ⟨b, i, 1, .invalidStart⟩
        | some p => decodeFrom (i + 1) (some p) rest
  | i, some p, b :: rest =>
      if p.low ≤ b ∧ b ≤ p.high then
        if p.owed = 1 then (Char.ofNat (p.extended b) :: ·) <$> decodeFrom (i + 1) none rest
        else
          decodeFrom (i + 1)
            (some ⟨p.first, p.start, p.size + 1, p.extended b, p.owed - 1, 0x80, 0xBF⟩) rest
      else .error (p.fault .invalidContinuation)

/-- The text that bytes write, or the first fault. -/
def decode (bytes : List UInt8) : Except Fault (List Char) := decodeFrom 0 none bytes

/-- The bytes that write a text. -/
def encode (text : List Char) : List UInt8 := text.flatMap String.utf8EncodeChar

end Utf8

/-- The text that the bytes of a file write, its line ends folded. -/
def ofBytes (bytes : List UInt8) : Except Utf8.Fault (List Char) :=
  (Utf8.decode bytes).map foldLineEnds

end EntitySchema.Text
