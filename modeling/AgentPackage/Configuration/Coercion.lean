import AgentPackage.Value.Numeral
import AgentPackage.Failure

/-!
# Lenient reading of settings

Settings are read leniently: a number may be written as a text, an integer as a float without a
fraction, and a truth value as a word or as the numbers one and zero. What cannot be read that
way is an error of the setting.
-/

namespace AgentPackage.Coercion

/-- A numeral without a plus sign in front of it. -/
def withoutPlus : List Char → List Char
  | '+' :: '-' :: cs => '+' :: '-' :: cs
  | '+' :: cs => cs
  | cs => cs

/-- Whether `c` is a digit other than zero. -/
def isLeadingDigit (c : Char) : Bool :=
  '1' ≤ c && c ≤ '9'

/-- A numeral from `last`, which is a zero or an underscore, on, without the zeros and underscores
that it starts with. The last of them is kept at the end of the numeral and before a point. -/
def dropZeros? (last : Char) : List Char → Option (List Char)
  | [] => some [last]
  | c :: cs =>
    if c == '0' || c == '_' then dropZeros? c cs
    else if isLeadingDigit c || c == '-' then some (c :: cs)
    else if c == '.' then some (last :: c :: cs)
    else none

/-- A numeral without the zeros that it starts with, and the underscores between them. -/
def withoutLeadingZeros? : List Char → Option (List Char)
  | '0' :: cs => dropZeros? '0' cs
  | c :: cs => if isLeadingDigit c then some (c :: cs) else none
  | [] => none

/-- A numeral without the zeros that it starts with, its sign being kept. -/
def cleaned? : List Char → Option (List Char)
  | '-' :: cs => (withoutLeadingZeros? cs).map ('-' :: ·)
  | cs => withoutLeadingZeros? cs

/-- A numeral without a fraction of zeros, of which there is at least one. -/
def withoutZeroFraction (cs : List Char) : List Char :=
  match cs.dropWhile (· != '.') with
  | '.' :: '0' :: zeros => if zeros.all (· == '0') then cs.takeWhile (· != '.') else cs
  | _ => cs

/-- A numeral without the single underscores between its characters; none if one stands at an end
or beside another. -/
def withoutUnderscores? (cs : List Char) : Option (List Char) :=
  let parts := Text.split (· == '_') cs
  if parts.length == 1 then some cs
  else if parts.any List.isEmpty then none
  else some parts.flatten

/-- The greatest number of characters of a numeral that is written as a text. -/
def numeralLimit : Nat := 4300

/-- The integer that a plain numeral denotes: digits, of which the first is zero only if it is the
only one, and a minus sign in front of them if need be. A numeral that is too long is not read to
its end. -/
def plainInt (cs : List Char) : Except FieldErrorKind Int :=
  let (negative, digits) := match cs with
    | '-' :: ds => (true, ds)
    | ds => (false, ds)
  let run := digits.takeWhile Char.isDigit
  if run.isEmpty then .error .intParsing
  else if run.head? == some '0' then
    if digits == ['0'] then .ok 0 else .error .intParsing
  else if numeralLimit < cs.length - (digits.length - run.length) then .error .intParsingSize
  else if run.length != digits.length then .error .intParsing
  else
    let n : Int := Decimal.natOfDigits run
    .ok (if negative then -n else n)

/-- The integer that a text denotes: a plain numeral, or one that becomes plain when it is freed of
blanks around it, a plus sign, leading zeros, a fraction of zeros and underscores. -/
def intOfText (s : String) : Except FieldErrorKind Int :=
  match plainInt s.toList with
  | .error .intParsing =>
    let cleaned := do
      let cs ← cleaned? (withoutPlus (Numeral.unpadded s.toList))
      withoutUnderscores? (withoutZeroFraction cs)
    match cleaned.map plainInt with
    | some (.ok i) => .ok i
    | _ => .error .intParsing
  | result => result

/-- The bound of the integers that a float may stand for. -/
def wordBound : Int := 0x8000000000000000

/-- The integer that a float without a fraction denotes. -/
def intOfFloat (x : Float) : Except FieldErrorKind Int :=
  if x.isNaN || x.isInf then .error .finiteNumber
  else
    let (n, d) := Value.ratioOfFloat x
    if n % d != 0 then .error .intFromFloat
    else if -wordBound < n / d && n / d < wordBound then .ok (n / d)
    else .error .intParsingSize

/-- The integer that a value denotes. -/
def int : Value → Except FieldErrorKind Int
  | .int i => .ok i
  | .bool b => .ok (Value.ofBool b)
  | .str s => intOfText s
  | .float x => intOfFloat x
  | _ => .error .intType

/-- The words for yes. -/
def trueWords : List String := ["1", "t", "y", "on", "yes", "true"]

/-- The words for no. -/
def falseWords : List String := ["0", "f", "n", "no", "off", "false"]

/-- The truth value that an integer denotes. -/
def boolOfInt (i : Int) : Except FieldErrorKind Bool :=
  if i == 0 then .ok false
  else if i == 1 then .ok true
  else if -wordBound ≤ i && i < wordBound then .error .boolParsing
  else .error .boolType

/-- The truth value that a value denotes. Case does not matter in words. -/
def bool : Value → Except FieldErrorKind Bool
  | .bool b => .ok b
  | .int i => boolOfInt i
  | .str s =>
    let word := String.ofList (s.toList.map Char.toLower)
    if trueWords.contains word then .ok true
    else if falseWords.contains word then .ok false
    else .error .boolParsing
  | .float x =>
    match intOfFloat x with
    | .ok i => boolOfInt i
    | .error _ => .error .boolType
  | _ => .error .boolType

end AgentPackage.Coercion
