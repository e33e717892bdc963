import AgentPackage.Value.Basic
import AgentPackage.Text.Quoted

/-!
# Scalars that denote no value

A scalar can have the form of a number, a truth value or a time and still denote none: it has
too many digits, its date does not exist, or it was declared to be of a type that its text does
not fit. These faults are no syntax errors of the document; they end the reading of it. A value
can also be nested so deep that reading or following it takes more calls, one inside the other,
than there is room for.
-/

namespace AgentPackage

/-- How many calls one inside the other there is room for when a value is read or followed: a
thousand, less those around them. -/
def callRoom : Nat := 960

/-- The kinds of calls of which one can be too many. -/
inductive Call where
  /-- A call of a function. -/
  | function
  /-- A call through an object. -/
  | object
  /-- The reading of an array of a JSON text. -/
  | array
  /-- The reading of an object of a JSON text. -/
  | mapping
  deriving DecidableEq, Repr

/-- Why a scalar denotes no value, or what is read cannot be followed to its end. -/
inductive ScalarFault where
  /-- An integer has more digits than are converted. -/
  | digitLimit (digits : Nat)
  /-- The text is no integer to the given base. -/
  | integer (base : Nat) (text : String)
  /-- The text is no floating-point number. -/
  | float (text : String)
  /-- The text, lower-cased, is no truth value. -/
  | boolean (word : String)
  /-- A number was declared whose text is empty, its sign apart. -/
  | emptyNumber
  /-- A number to the base sixty has a group whose unit no floating-point number is near to. -/
  | unitTooLarge
  /-- The text does not have the form of a time. -/
  | timestamp
  /-- A mapping stands where the text of a time is to be. -/
  | timeInMapping
  /-- Following a value takes more calls than there is room for, as when a mapping stands for its
  own text. -/
  | endlessText {tooMany : Call}
  /-- The parts of a time are out of range. -/
  | calendar (fault : CalendarFault)
  /-- An escape denotes no character. -/
  | character (code : Nat)
  deriving Repr

/-- The greatest number of digits of an integer that are converted. -/
def integerDigitLimit : Nat := 4300

namespace CalendarFault

/-- The text of a span of time given in minutes, as whole days, which may be negative, and the
seconds beyond them. -/
def spanText (minutes : Int) : String :=
  let days := minutes.fdiv 1440
  let seconds := minutes.fmod 1440 * 60
  if seconds == 0 then "datetime.timedelta(days=" ++ toString days ++ ")"
  else "datetime.timedelta(days=" ++ toString days ++ ", seconds=" ++ toString seconds ++ ")"

/-- The wording of a calendar fault. -/
def message : CalendarFault → String
  | .year value => "year " ++ toString value ++ " is out of range"
  | .month => "month must be in 1..12"
  | .day => "day is out of range for month"
  | .hour => "hour must be in 0..23"
  | .minute => "minute must be in 0..59"
  | .second => "second must be in 0..59"
  | .offset minutes =>
    "offset must be a timedelta strictly between -timedelta(hours=24) and " ++
      "timedelta(hours=24), not " ++ spanText minutes ++ "."

end CalendarFault

namespace ScalarFault

/-- The wording of a scalar fault. -/
def message : ScalarFault → String
  | .digitLimit digits =>
    "Exceeds the limit (" ++ toString integerDigitLimit ++
      " digits) for integer string conversion: value has " ++ toString digits ++
      " digits; use sys.set_int_max_str_digits() to increase the limit"
  | .integer base text =>
    "invalid literal for int() with base " ++ toString base ++ ": " ++
      String.ofList ((Text.quoted text).toList.take 200)
  | .float text => "could not convert string to float: " ++ Text.quoted text
  | .boolean word => Text.quoted word
  | .emptyNumber => "string index out of range"
  | .unitTooLarge => "int too large to convert to float"
  | .timestamp => "'NoneType' object has no attribute 'groupdict'"
  | .timeInMapping => "expected string or bytes-like object, got 'list'"
  | @endlessText .function => "maximum recursion depth exceeded"
  | @endlessText .object => "maximum recursion depth exceeded while calling a Python object"
  | @endlessText .array =>
    "maximum recursion depth exceeded while decoding a JSON array from a unicode string"
  | @endlessText .mapping =>
    "maximum recursion depth exceeded while decoding a JSON object from a unicode string"
  | .calendar fault => fault.message
  | .character code =>
    if code < 0x80000000 then "chr() arg not in range(0x110000)"
    else "Python int too large to convert to C int"

end ScalarFault

end AgentPackage
