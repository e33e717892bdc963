/-!
# Shortest decimal digits

The fewest decimal digits that read back as a given binary floating-point number, and among
those the nearest to it. The number is taken apart into an integer times a power of two, and
the digits are found in exact integer arithmetic: for one digit, two digits, and so on, the two
neighbours of the number on the grid of decimals with that many digits are tested for lying in
the interval of the reals that round to it.
-/

namespace AgentPackage.Decimal

/-- A positive number `mantissa · 2 ^ exponent`, with what is needed of its neighbours. -/
structure Binary where
  /-- The integer factor. -/
  mantissa : Nat
  /-- The power of two. -/
  exponent : Int
  /-- Whether the number below is only half as far away as the number above. -/
  closerBelow : Bool

/-- Decimal digits with the position of the point: `digits · 10 ^ (point - count)`, where
`count` is the number of digits. -/
structure Digits where
  /-- The digits, most significant first. -/
  digits : List Char
  /-- How many digits stand before the point. -/
  point : Int

/-- How many fractions a double tells apart: its lowest fifty-two bits. -/
def fractionCount : Nat := 0x10000000000000

/-- How many exponents a double tells apart: the eleven bits above the fraction. -/
def exponentCount : Nat := 0x800

/-- The parts of a finite double that is not zero, sign apart. -/
def Binary.ofFloat (x : Float) : Binary :=
  let bits : Nat := x.toBits.toNat
  let fraction : Nat := bits % fractionCount
  let biased : Nat := bits / fractionCount % exponentCount
  if biased == 0 then ⟨fraction, -1074, false⟩
  else ⟨fraction + fractionCount, (Int.ofNat biased) - 1075, fraction == 0 && biased != 1⟩

/-- An interval of reals with ends `low / scale` and `high / scale` around `value / scale`. -/
structure Rounding where
  /-- The numerator of the number. -/
  value : Nat
  /-- The numerator of the lower end. -/
  low : Nat
  /-- The numerator of the upper end. -/
  high : Nat
  /-- The common denominator. -/
  scale : Nat
  /-- Whether the ends belong to the interval. -/
  closed : Bool

/-- The reals that round to `b`. -/
def Binary.rounding (b : Binary) : Rounding :=
  let up := Nat.pow 2 b.exponent.toNat
  let value := 4 * b.mantissa * up
  ⟨value, value - (if b.closerBelow then up else 2 * up), value + 2 * up,
    4 * Nat.pow 2 (-b.exponent).toNat, b.mantissa % 2 == 0⟩

/-- Whether `n / d` lies in the interval. -/
def Rounding.contains (r : Rounding) (n d : Nat) : Bool :=
  if r.closed then r.low * d ≤ n * r.scale && n * r.scale ≤ r.high * d
  else r.low * d < n * r.scale && n * r.scale < r.high * d

/-- The least `p` from `p` on, at most `budget` steps away, with `value / scale < 10 ^ p`. -/
def pointFrom (value scale : Nat) : Nat → Int → Int
  | 0, p => p
  | budget + 1, p =>
    if value * Nat.pow 10 (-p).toNat < scale * Nat.pow 10 p.toNat then p
    else pointFrom value scale budget (p + 1)

/-- The candidate with `count` digits: the nearer of the two neighbours of the number on the
grid of multiples of `10 ^ (point - count)` that lies in the interval; of two equally near ones
the even one. -/
def Rounding.candidate (r : Rounding) (point : Int) (count : Nat) : Option Nat :=
  let e := point - count
  let up := Nat.pow 10 e.toNat
  let down := Nat.pow 10 (-e).toNat
  -- `value / scale = (value · down) / (scale · up)` grid units
  let num := r.value * down
  let den := r.scale * up
  let below := num / den
  let rest := num % den
  let lowOk := r.contains (below * up) down
  let highOk := r.contains ((below + 1) * up) down
  match lowOk, highOk with
  | true, false => some below
  | false, true => some (below + 1)
  | true, true =>
    if 2 * rest < den then some below
    else if den < 2 * rest then some (below + 1)
    else if below % 2 == 0 then some below else some (below + 1)
  | false, false => none

/-- The first candidate with `count` digits or more, `budget` being how many more counts are
tried. -/
def Rounding.shortestFrom (r : Rounding) (point : Int) : Nat → Nat → Nat × Nat
  | 0, count => (0, count)
  | budget + 1, count =>
    match r.candidate point count with
    | some n => (n, count)
    | none => r.shortestFrom point budget (count + 1)

/-- The shortest digits of a finite double that is not zero, sign apart. -/
def shortest (x : Float) : Digits :=
  let r := (Binary.ofFloat x).rounding
  let point := pointFrom r.value r.scale 640 (-325)
  let (n, count) := r.shortestFrom point 20 1
  let digits := Nat.toDigits 10 n
  let point := point + (digits.length - count : Int)
  ⟨(digits.reverse.dropWhile (· == '0')).reverse, point⟩

end AgentPackage.Decimal
