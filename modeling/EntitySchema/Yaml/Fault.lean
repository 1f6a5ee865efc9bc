/-
# `EntitySchema.Yaml.Fault` — why a text has no value

Most faults make a text malformed; what is said of it then is left to whoever reads it.  Besides,
there are exceptions: a reader can come to a point that it was not made for, a scalar that is said to
be a number and is none, say, or nodes that stand too deep inside each other.  Each of these has a
wording of its own.
-/
import EntitySchema.Text.Printable

namespace EntitySchema.Yaml

/-- What a reader of YAML can come upon unprepared. -/
inductive Exception where
  /-- An escape by a number beyond all characters. -/
  | beyondCharacters
  /-- An escape by a number that is larger still. -/
  | beyondNumbers
  /-- What should be an integer in some base is none. -/
  | noInteger (base : Nat) (text : String)
  /-- A decimal integer has too many digits. -/
  | tooManyDigits (count : Nat)
  /-- What should be a number with a fraction is none. -/
  | noDecimal (text : String)
  /-- A number in base sixty has a place that is worth too much. -/
  | tooLarge
  /-- A number has no first character to look at. -/
  | noFirst
  /-- What should be a truth value is none. -/
  | noTruth (word : String)
  /-- What should be a moment is not written like one. -/
  | noMoment
  /-- What should be a moment is not even a text. -/
  | noText
  /-- There is no year of this number. -/
  | noYear (year : Nat)
  /-- There is no month of this number. -/
  | noMonth
  /-- The month has no day of this number. -/
  | noDay
  /-- There is no hour of this number. -/
  | noHour
  /-- There is no minute of this number. -/
  | noMinute
  /-- There is no second of this number. -/
  | noSecond
  /-- The offset of a time zone, in minutes, reaches a day. -/
  | noOffset (minutes : Int)
  /-- Nodes stand too deep inside each other. -/
  | tooDeep
  /-- Anything else that reading YAML may raise. -/
  | other (message : String)

namespace Exception

/-- The most digits of a decimal integer. -/
def mostDigits : Nat := 4300

/-- The most characters of a text that is shown in quotes. -/
def longestShown : Nat := 200

/-- A text in quotes, cut where it gets too long. -/
def shown (text : String) : String :=
  String.ofList ((Text.quoted text).toList.take longestShown)

/-- A stretch of time in minutes, as whole days and the seconds after these. -/
def duration (minutes : Int) : String :=
  let days := Int.fdiv minutes 1440
  let seconds := Int.fmod minutes 1440 * 60
  "datetime.timedelta(days=" ++ toString days
    ++ (if seconds = 0 then "" else ", seconds=" ++ toString seconds) ++ ")"

/-- The wording of an exception. -/
def message : Exception → String
  | .beyondCharacters => "chr() arg not in range(0x110000)"
  | .beyondNumbers => "int too large to convert to C int"
  | .noInteger base text =>
      "invalid literal for int() with base " ++ toString base ++ ": " ++ shown text
  | .tooManyDigits count =>
      "Exceeds the limit (" ++ toString mostDigits
        ++ " digits) for integer string conversion: value has " ++ toString count
        ++ " digits; use sys.set_int_max_str_digits() to increase the limit"
  | .noDecimal text => "could not convert string to float: " ++ Text.quoted text
  | .tooLarge => "int too large to convert to float"
  | .noFirst => "string index out of range"
  | .noTruth word => Text.quoted word
  | .noMoment => "'NoneType' object has no attribute 'groupdict'"
  | .noText => "expected string or bytes-like object, got 'list'"
  | .noYear year => "year " ++ toString year ++ " is out of range"
  | .noMonth => "month must be in 1..12"
  | .noDay => "day is out of range for month"
  | .noHour => "hour must be in 0..23"
  | .noMinute => "minute must be in 0..59"
  | .noSecond => "second must be in 0..59"
  | .noOffset minutes =>
      "offset must be a timedelta strictly between -timedelta(hours=24) and timedelta(hours=24)"
        ++ ", not " ++ duration minutes ++ "."
  | .tooDeep => "maximum recursion depth exceeded"
  | .other message => message

end Exception

/-- Why a text has no value. -/
inductive Fault where
  | malformed
  | raised (exception : Exception)

end EntitySchema.Yaml
