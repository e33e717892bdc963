import AgentPackage.Yaml.Implicit
import AgentPackage.Value.Numeral
import AgentPackage.Text.Base64
import AgentPackage.Text.LowerCase

/-!
# Values of scalars

What the text of a scalar denotes as a value of a standard type. A scalar can be declared to be
of a type that its text does not fit; then it denotes no value.
-/

namespace AgentPackage.Yaml.ScalarValue

/-- Gives a scalar fault as an error of the text. -/
def lift {α : Type} : Except ScalarFault α → Except Error α
  | .ok a => .ok a
  | .error f => .error (.scalar f)

/-- The truth value that a lower-cased word denotes. -/
def bool? : String → Option Bool
  | "yes" | "true" | "on" => some true
  | "no" | "false" | "off" => some false
  | _ => none

/-- The text of a number: its sign apart, which is negative if the flag is set. -/
def unsigned (text : String) : Except ScalarFault (Bool × List Char) :=
  match text.toList with
  | [] => .error .emptyNumber
  | '-' :: cs => .ok (true, cs)
  | '+' :: cs => .ok (false, cs)
  | cs => .ok (false, cs)

/-- The sum of the groups of a number to the base sixty, most significant group first. -/
def sexagesimal (groups : List Int) : Int :=
  groups.foldl (fun n g => n * 60 + g) 0

/-- The integer that a text denotes. -/
def int (text : String) : Except ScalarFault Int := do
  let (negative, cs) ← unsigned (String.ofList (text.toList.filter (· != '_')))
  let n ← match cs with
    | ['0'] => pure 0
    | '0' :: 'b' :: ds => Numeral.int 2 (String.ofList ds)
    | '0' :: 'x' :: ds => Numeral.int 16 (String.ofList ds)
    | '0' :: _ => Numeral.int 8 (String.ofList cs)
    | [] => throw .emptyNumber
    | _ =>
      if cs.contains ':' then do
        let groups ← (Text.split (· == ':') cs).mapM fun g => Numeral.int 10 (String.ofList g)
        pure (sexagesimal groups)
      else Numeral.int 10 (String.ofList cs)
  return if negative then -n else n

/-- The sum of the groups of a number to the base sixty, least significant group first, `unit`
being the value of one in the first of them. -/
def addGroups (sum : Float) (unit : Nat) : List Float → Except ScalarFault Float
  | [] => .ok sum
  | g :: gs =>
    let scale := Decimal.floatOfDecimal unit 0
    if scale.isInf then .error .unitTooLarge
    else addGroups (sum + g * scale) (unit * 60) gs

/-- The characters of a floating-point number that matter: no underscores, and no capitals. -/
def floatText (text : String) : String :=
  Text.lower (String.ofList (text.toList.filter (· != '_')))

/-- Whether a text is the word for the number that is no number. All such words denote the same
one; other texts denote one each. -/
def isNotANumberWord (text : String) : Bool :=
  match unsigned (floatText text) with
  | .ok (_, cs) => cs == ".nan".toList
  | .error _ => false

/-- The floating-point number that a text denotes. -/
def float (text : String) : Except ScalarFault Float := do
  let (negative, cs) ← unsigned (floatText text)
  let word := String.ofList cs
  let x ←
    if word == ".inf" then pure (1.0 / 0.0)
    else if word == ".nan" then pure (0.0 / 0.0)
    else if cs.contains ':' then do
      let groups ← (Text.split (· == ':') cs).mapM fun g => Numeral.float (String.ofList g)
      addGroups 0.0 1 groups.reverse
    else Numeral.float word
  return if negative then -x else x

/-- The first six digits of a fraction of a second, as microseconds. -/
def microseconds (fraction : List Char) : Nat :=
  let ds := fraction.take 6
  Decimal.natOfDigits (ds ++ List.replicate (6 - ds.length) '0')

/-- The offset that a zone denotes, in minutes. -/
def offset : Option Char × List Char × List Char → Int
  | (none, _, _) => 0
  | (some sign, hours, minutes) =>
    let n : Int := Decimal.natOfDigits hours * 60 + Decimal.natOfDigits minutes
    if sign == '-' then -n else n

/-- The date or the time that a text denotes. -/
def time (text : String) : Except ScalarFault Value :=
  match Implicit.timeText? (Implicit.dropFinalBreak text.toList) with
  | none => .error .timestamp
  | some t =>
    let year := Decimal.natOfDigits t.year
    let month := Decimal.natOfDigits t.month
    let day := Decimal.natOfDigits t.day
    let result := match t.clock with
      | none => (Date.make year month day).map Value.date
      | some (hour, minute, second, fraction) =>
        (DateTime.make year month day (Decimal.natOfDigits hour) (Decimal.natOfDigits minute)
          (Decimal.natOfDigits second) (microseconds fraction) (t.zone.map offset)).map
          Value.dateTime
    result.mapError ScalarFault.calendar

/-- The characters of a text that are not ASCII as an error shows them: the first of them, or
the places of the first run of them. -/
def nonAscii? (cs : List Char) : Option String :=
  let isAscii (c : Char) : Bool := c.toNat < 0x80
  let start := (cs.takeWhile isAscii).length
  match (cs.drop start).takeWhile fun c => !isAscii c with
  | [] => none
  | [c] => some ("character '" ++ String.ofList (Text.escapeCode c) ++ "' in position " ++
      toString start)
  | run => some ("characters in position " ++ toString start ++ "-" ++
      toString (start + run.length - 1))

/-- The binary data that a text denotes. -/
def binary (text : String) (mark : Mark) : Except Error Value :=
  match nonAscii? text.toList with
  | some shown => .error (.plain ("failed to convert base64 data into ascii: " ++
      "'ascii' codec can't encode " ++ shown ++ ": ordinal not in range(128)") mark)
  | none =>
    match Text.Base64.decode text.toList with
    | .ok bytes => .ok (.bytes bytes)
    | .error p => .error (.plain ("failed to decode base64 data: " ++ p.message) mark)

/-- The types of scalars that have a standard tag. -/
inductive ScalarType where
  /-- The absent value. -/
  | null
  /-- A truth value. -/
  | bool
  /-- An integer. -/
  | int
  /-- A floating-point number. -/
  | float
  /-- Binary data. -/
  | binary
  /-- A date or a time. -/
  | timestamp
  /-- A string. -/
  | str
  deriving DecidableEq, Repr

/-- The type of scalars that a tag names. -/
def ScalarType.ofTag? (tag : String) : Option ScalarType :=
  if tag == standardTag "null" then some .null
  else if tag == standardTag "bool" then some .bool
  else if tag == standardTag "int" then some .int
  else if tag == standardTag "float" then some .float
  else if tag == standardTag "binary" then some .binary
  else if tag == standardTag "timestamp" then some .timestamp
  else if tag == standardTag "str" then some .str
  else none

/-- The value of a type that a text at `mark` denotes. -/
def ofText (type : ScalarType) (text : String) (mark : Mark) : Except Error Value :=
  match type with
  | .null => .ok .null
  | .bool =>
    let word := Text.lower text
    match bool? word with
    | some b => .ok (.bool b)
    | none => .error (.scalar (.boolean word))
  | .int => (lift (int text)).map Value.int
  | .float => (lift (float text)).map Value.float
  | .binary => binary text mark
  | .timestamp => lift (time text)
  | .str => .ok (.str text)

end AgentPackage.Yaml.ScalarValue
