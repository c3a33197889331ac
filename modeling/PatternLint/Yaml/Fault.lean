import PatternLint.Text.Quoted

/-!
# Faults of a YAML text

A text that breaks the rules of the format is `malformed`, wherever it does so and whichever rule it is; what
is said of it stands for all that a reader may say.  The other faults are values that have the form of a number,
a date or a truth value and still denote none.
-/

namespace PatternLint.Yaml

open PatternLint.Text

/-- The part of a date or a time that is out of its range. -/
inductive CalendarField
  | year
  | month
  | day
  | hour
  | minute
  | second
  deriving DecidableEq, Repr

inductive Fault
  | malformed
  /-- An escape beyond the last code point. -/
  | beyondUnicode
  /-- An escape that does not even fit a machine integer. -/
  | beyondWord
  | unknownBool (value : String)
  | emptyNumber
  | notInteger (base : Nat) (value : String)
  | tooManyDigits (count : Nat)
  | notFloat (value : String)
  | notTimestamp
  | collectionAsTimestamp
  | outOfCalendar (field : CalendarField)
  /-- A time zone a day or more away; the offset in seconds. -/
  | zoneOffset (seconds : Int)
  deriving DecidableEq, Repr

namespace Fault

def calendarMessage : CalendarField → String
  | .year => "year 0 is out of range"
  | .month => "month must be in 1..12"
  | .day => "day is out of range for month"
  | .hour => "hour must be in 0..23"
  | .minute => "minute must be in 0..59"
  | .second => "second must be in 0..59"

/-- A span of time as whole days and the seconds left over. -/
def spanText (seconds : Int) : String :=
  let days := Int.fdiv seconds 86400
  let rest := Int.fmod seconds 86400
  let parts := (if days = 0 then [] else ["days=" ++ toString days]) ++
    (if rest = 0 then [] else ["seconds=" ++ toString rest])
  "datetime.timedelta(" ++ joinWith ", " (if parts.isEmpty then ["0"] else parts) ++ ")"

/-- At most the first two hundred characters of a quoted text. -/
def excerpt (value : String) : String := String.ofList ((quotedChars value.toList).take 200)

def message : Fault → String
  | .malformed => "malformed document"
  | .beyondUnicode => "chr() arg not in range(0x110000)"
  | .beyondWord => "Python int too large to convert to C int"
  | .unknownBool value => value
  | .emptyNumber => "string index out of range"
  | .notInteger base value =>
    "invalid literal for int() with base " ++ toString base ++ ": " ++ excerpt value
  | .tooManyDigits count =>
    "Exceeds the limit (4300 digits) for integer string conversion: value has " ++ toString count ++
      " digits; use sys.set_int_max_str_digits() to increase the limit"
  | .notFloat value => "could not convert string to float: " ++ quoted value
  | .notTimestamp => "'NoneType' object has no attribute 'groupdict'"
  | .collectionAsTimestamp => "expected string or bytes-like object, got 'list'"
  | .outOfCalendar field => calendarMessage field
  | .zoneOffset seconds =>
    "offset must be a timedelta strictly between -timedelta(hours=24) and timedelta(hours=24), not " ++
      spanText seconds ++ "."

end Fault

end PatternLint.Yaml
