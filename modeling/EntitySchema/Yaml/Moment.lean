/-
# `EntitySchema.Yaml.Moment` — dates and times

A moment is a date, alone or with a time of day, and with an offset from universal time if wanted.
It is written with a year of four digits; whether there is such a moment is asked afterwards.
-/
import EntitySchema.Yaml.Character
import EntitySchema.Yaml.Fault

namespace EntitySchema.Yaml

/-- A time of day, with the offset of its time zone in minutes. -/
structure TimeOfDay where
  hour : Nat
  minute : Nat
  second : Nat
  offset : Option Int

/-- A date, and a time of day if there is one. -/
structure Moment where
  year : Nat
  month : Nat
  day : Nat
  time : Option TimeOfDay

namespace Moment

/-! ## Reading -/

/-- A reader of a part of a moment. -/
abbrev Reader (α : Type) := StateT (List Char) Option α

/-- Reads a character that satisfies a condition. -/
def character (p : Char → Bool) : Reader Char := do
  match ← get with
  | c :: rest => if p c then do set rest; return c else failure
  | [] => failure

/-- Reads all characters that satisfy a condition. -/
def characters (p : Char → Bool) : Reader (List Char) := do
  let text ← get
  set (text.dropWhile p)
  return text.takeWhile p

/-- Reads a given character. -/
def literal (c : Char) : Reader Unit := discard (character (· == c))

/-- Reads a digit. -/
def digit : Reader Nat := do return (← character Char.isDigit).toNat - '0'.toNat

/-- Reads a number of two digits. -/
def two : Reader Nat := do return (← digit) * 10 + (← digit)

/-- Reads a number of one or two digits. -/
def oneOrTwo : Reader Nat := two <|> digit

/-- Reads the offset of a time zone, if there is one. -/
def offset : Reader (Option Int) := do
  discard (characters isBlank)
  if (← get).isEmpty then return none
  let sign ← character "Z+-".toList.contains
  if sign = 'Z' then return some 0
  let hours ← oneOrTwo
  let minutes ← (do literal ':'; two) <|> pure 0
  let total := Int.ofNat (hours * 60 + minutes)
  return some (if sign = '-' then -total else total)

/-- Reads what separates a time from its date. -/
def timeMark : Reader Unit := do
  if (← characters isBlank).isEmpty then discard (character fun c => c == 'T' || c == 't')

/-- Reads a time of day; a fraction of its second is not kept. -/
def timeOfDay : Reader TimeOfDay := do
  timeMark
  let hour ← oneOrTwo
  literal ':'
  let minute ← two
  literal ':'
  let second ← two
  (do literal '.'; discard (characters Char.isDigit)) <|> pure ()
  let trailing ← get
  let offset ← offset
  if offset.isNone ∧ !trailing.isEmpty then failure
  return ⟨hour, minute, second, offset⟩

/-- Reads a moment. -/
def moment : Reader Moment := do
  let century ← two
  let year := century * 100 + (← two)
  literal '-'
  let month ← oneOrTwo
  literal '-'
  let day ← oneOrTwo
  if (← get).isEmpty then return ⟨year, month, day, none⟩
  else return ⟨year, month, day, some (← timeOfDay)⟩

/-- The moment that a text writes. -/
def ofText? (text : List Char) : Option Moment :=
  match moment.run text with
  | some (found, []) => some found
  | _ => none

/-- Whether a text is a moment: a date alone has to have two digits for the month and the day. -/
def isWritten (text : List Char) : Bool :=
  (ofText? text).any fun moment => moment.time.isSome || text.length == 10

/-! ## Whether there is such a moment -/

/-- Whether a year has a leap day. -/
def isLeapYear (year : Nat) : Bool := year % 4 == 0 && (year % 100 != 0 || year % 400 == 0)

/-- The number of days of a month. -/
def daysIn (year month : Nat) : Nat :=
  if month = 2 then if isLeapYear year then 29 else 28
  else if [4, 6, 9, 11].contains month then 30 else 31

/-- What is wrong with a date. -/
def dateFault? (moment : Moment) : Option Exception :=
  if moment.year = 0 then some (.noYear moment.year)
  else if moment.month = 0 ∨ 12 < moment.month then some .noMonth
  else if moment.day = 0 ∨ daysIn moment.year moment.month < moment.day then some .noDay
  else none

/-- What is wrong with a time of day. -/
def timeFault? (time : TimeOfDay) : Option Exception :=
  if 23 < time.hour then some .noHour
  else if 59 < time.minute then some .noMinute
  else if 59 < time.second then some .noSecond
  else none

/-- What is wrong with the offset of a time zone. -/
def offsetFault? (time : TimeOfDay) : Option Exception :=
  time.offset.bind fun minutes => if 1440 ≤ minutes.natAbs then some (.noOffset minutes) else none

/-- What is wrong with a moment: the time zone counts before the date, and this before the time. -/
def fault? (moment : Moment) : Option Exception :=
  match moment.time with
  | none => moment.dateFault?
  | some time => offsetFault? time <|> moment.dateFault? <|> timeFault? time

end Moment

end EntitySchema.Yaml
