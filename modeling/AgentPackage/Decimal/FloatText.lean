import AgentPackage.Decimal.Shortest

/-!
# The text of a floating-point number

A floating-point number is written with its shortest digits: positionally, with at least one
digit after the point, when its decimal exponent lies in a given range, and otherwise with one
digit before the point and an exponent. Reading is the inverse and rounds to the nearest
number.
-/

namespace AgentPackage.Decimal

/-- How floating-point numbers are written. -/
structure FloatLayout where
  /-- The least decimal exponent that is written positionally. -/
  leastExponent : Int
  /-- The least decimal exponent above those that are written positionally. -/
  firstLargeExponent : Int
  /-- The least number of digits of a written exponent. -/
  exponentDigits : Nat
  /-- The text of an infinite number, without its sign. -/
  infinite : String
  /-- The text of the number that is no number. -/
  notANumber : String

/-- The layout of floats in answers and messages: positional from 0.0001 up to below 10^16,
exponents with at least two digits and always with a sign. -/
def plainLayout : FloatLayout := ⟨-4, 16, 2, "inf", "nan"⟩

/-- The digits of `n` with zeros in front up to `count` digits. -/
def padded (count n : Nat) : List Char :=
  let ds := Nat.toDigits 10 n
  List.replicate (count - ds.length) '0' ++ ds

/-- Digits written positionally, with at least one digit on both sides of the point. -/
def Digits.positional (d : Digits) : List Char :=
  let count := d.digits.length
  if d.point ≤ 0 then '0' :: '.' :: (List.replicate (-d.point).toNat '0' ++ d.digits)
  else
    let before := d.point.toNat
    if count ≤ before then d.digits ++ List.replicate (before - count) '0' ++ ['.', '0']
    else d.digits.take before ++ '.' :: d.digits.drop before

/-- Digits written with an exponent of at least `exponentDigits` digits. -/
def Digits.scientific (exponentDigits : Nat) (d : Digits) : List Char :=
  let e := d.point - 1
  let mantissa := match d.digits with
    | [] => ['0']
    | [c] => [c]
    | c :: cs => c :: '.' :: cs
  mantissa ++ 'e' :: (if e < 0 then '-' else '+') :: padded exponentDigits e.natAbs

/-- The text of `x` in a layout. -/
def floatText (layout : FloatLayout) (x : Float) : String :=
  if x.isNaN then layout.notANumber
  else
    let sign := if x.toBits.toNat / (fractionCount * exponentCount) == 1 then "-" else ""
    if x.isInf then sign ++ layout.infinite
    else if x == 0 then sign ++ "0.0"
    else
      let d := shortest x
      let e := d.point - 1
      sign ++ String.ofList
        (if layout.leastExponent ≤ e && e < layout.firstLargeExponent then d.positional
         else d.scientific layout.exponentDigits)

/-- The number that decimal digits denote, most significant digit first. -/
def natOfDigits (ds : List Char) : Nat :=
  ds.foldl (fun n c => n * 10 + (c.toNat - '0'.toNat)) 0

/-- The float nearest to `mantissa · 10 ^ exponent`; beyond the range of floats it is infinite
or zero. -/
def floatOfDecimal (mantissa : Nat) (exponent : Int) : Float :=
  if mantissa == 0 then 0.0
  else
    let magnitude := ((Nat.toDigits 10 mantissa).length : Int) + exponent
    if magnitude > 320 then 1.0 / 0.0
    else if magnitude < -340 then 0.0
    else if exponent ≥ 0 then Float.ofScientific mantissa false exponent.toNat
    else Float.ofScientific mantissa true (-exponent).toNat

end AgentPackage.Decimal
