import AgentPackage.Value.Fault
import AgentPackage.Text.Blank
import AgentPackage.Text.Digits

/-!
# Numerals

Reading of integers and floating-point numbers from text: white space around a numeral and single
underscores between its digits are allowed, digits may be those of any script, and a numeral to the
base 2, 8 or 16 may start with the letter of its base.
-/

namespace AgentPackage.Numeral

/-- Whether `c` is white space that may surround a number: a blank, but no information
separator. -/
def isPadding (c : Char) : Bool :=
  Text.isBlank c && !(0x1C ≤ c.toNat && c.toNat ≤ 0x1F)

/-- The characters without the padding at their two ends. -/
def unpadded (cs : List Char) : List Char :=
  ((cs.dropWhile isPadding).reverse.dropWhile isPadding).reverse

/-- The characters of a numeral, without padding and with ASCII digits. -/
def characters (text : String) : List Char :=
  (unpadded text.toList).map Text.asciiDigit

/-- The value of a digit to a base up to sixteen. -/
def digit? (base : Nat) (c : Char) : Option Nat :=
  let n :=
    if '0' ≤ c && c ≤ '9' then c.toNat - '0'.toNat
    else if 'a' ≤ c && c ≤ 'f' then c.toNat - 'a'.toNat + 10
    else if 'A' ≤ c && c ≤ 'F' then c.toNat - 'A'.toNat + 10
    else base
  if n < base then some n else none

/-- The sign of a numeral and the characters behind it. -/
def sign : List Char → Bool × List Char
  | '-' :: cs => (true, cs)
  | '+' :: cs => (false, cs)
  | cs => (false, cs)

/-- The characters of `cs` without the mark of the base in front of them. -/
def dropBaseMark (base : Nat) (cs : List Char) : List Char :=
  match cs with
  | '0' :: m :: rest =>
    if (base == 16 && (m == 'x' || m == 'X')) || (base == 8 && (m == 'o' || m == 'O')) ||
        (base == 2 && (m == 'b' || m == 'B')) then
      match rest with
      | '_' :: rest' => rest'
      | _ => rest
    else cs
  | _ => cs

/-- The digits of a numeral, `afterDigit` saying whether a digit stands before `cs`: only then
an underscore may follow, and a digit has to follow an underscore. -/
def digits? (base : Nat) (afterDigit : Bool) : List Char → Option (List Nat)
  | [] => if afterDigit then some [] else none
  | c :: cs =>
    if c == '_' then (if afterDigit then digits? base false cs else none)
    else do
      let d ← digit? base c
      return d :: (← digits? base true cs)

/-- The digits and underscores that `cs` starts with, and what stands behind them. -/
def digitRun (base : Nat) (cs : List Char) : List Char × List Char :=
  cs.span fun c => c == '_' || (digit? base c).isSome

/-- The integer that a numeral to a base denotes. The digits are counted before what stands behind
them is looked at. -/
def int (base : Nat) (text : String) : Except ScalarFault Int :=
  let (negative, cs) := sign (characters text)
  let (run, rest) := digitRun base (dropBaseMark base cs)
  match digits? base false run with
  | none => .error (.integer base text)
  | some ds =>
    if base == 10 && integerDigitLimit < ds.length then .error (.digitLimit ds.length)
    else if !rest.isEmpty then .error (.integer base text)
    else
      let n : Int := (ds.foldl (fun n d => n * base + d) 0 : Nat)
      .ok (if negative then -n else n)

/-- The characters of a row of digits without their underscores. -/
def decimals? (cs : List Char) : Option (List Char) :=
  if cs.isEmpty then some []
  else (digits? 10 false cs).map fun ds => ds.map Nat.digitChar

/-- The exponent at the end of a floating-point number. -/
def exponent? : List Char → Option Int
  | [] => some 0
  | e :: cs =>
    if e == 'e' || e == 'E' then do
      let (negative, cs) := sign cs
      let ds ← digits? 10 false cs
      let n : Int := (ds.foldl (fun n d => n * 10 + d) 0 : Nat)
      return if negative then -n else n
    else none

/-- The floating-point number that unsigned characters denote. -/
def unsignedFloat? (cs : List Char) : Option Float := do
  let word := String.ofList (cs.map Char.toLower)
  if word == "inf" || word == "infinity" then return 1.0 / 0.0
  if word == "nan" then return 0.0 / 0.0
  let isPart (c : Char) : Bool := c.isDigit || c == '_'
  let (whole, rest) := cs.span isPart
  let (fraction, rest) := match rest with
    | '.' :: rest => rest.span isPart
    | _ => ([], rest)
  let whole ← decimals? whole
  let fraction ← decimals? fraction
  let e ← exponent? rest
  if whole.isEmpty && fraction.isEmpty then none
  else return Decimal.floatOfDecimal (Decimal.natOfDigits (whole ++ fraction)) (e - fraction.length)

/-- The floating-point number that a numeral denotes. -/
def float (text : String) : Except ScalarFault Float :=
  let (negative, cs) := sign (characters text)
  match unsignedFloat? cs with
  | some x => .ok (if negative then -x else x)
  | none => .error (.float text)

end AgentPackage.Numeral
