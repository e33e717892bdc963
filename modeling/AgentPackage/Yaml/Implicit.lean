import AgentPackage.Yaml.Event
import AgentPackage.Text.Split

/-!
# Types that follow from the text of a scalar

A plain scalar without a tag has the type that its text has the form of: a truth value, a
number, a time, the absent value, a merge key, and otherwise a string. Each type is known by its
tag.
-/

namespace AgentPackage.Yaml

/-- What the tags of the standard types start with. -/
def tagBase : String := "tag:yaml.org,2002:"

/-- The tag of a standard type. -/
def standardTag (name : String) : String :=
  tagBase ++ name

namespace Implicit

/-- The words that are truth values. -/
def boolWords : List String :=
  ["yes", "Yes", "YES", "no", "No", "NO", "true", "True", "TRUE", "false", "False", "FALSE",
   "on", "On", "ON", "off", "Off", "OFF"]

/-- The texts that denote the absent value. -/
def nullWords : List String :=
  ["", "~", "null", "Null", "NULL"]

/-- The characters without the sign in front of them, if there is one. -/
def dropSign : List Char → List Char
  | '-' :: cs => cs
  | '+' :: cs => cs
  | cs => cs

/-- Whether `c` is a digit or an underscore. -/
def isDigitOrUnderscore (c : Char) : Bool :=
  isDigit c || c == '_'

/-- Whether `cs` is a digit followed by digits and underscores. -/
def isDigits : List Char → Bool
  | c :: cs => isDigit c && cs.all isDigitOrUnderscore
  | [] => false

/-- Whether `cs` is a group of a number to the base sixty: one digit, or two of which the first
is below six. -/
def isSixtieth : List Char → Bool
  | [a] => isDigit a
  | [a, b] => '0' ≤ a && a ≤ '5' && isDigit b
  | _ => false

/-- Whether `cs` is empty or an exponent with its sign. -/
def isExponent : List Char → Bool
  | [] => true
  | e :: sign :: d :: ds =>
    (e == 'e' || e == 'E') && (sign == '-' || sign == '+') && isDigit d && ds.all isDigit
  | _ => false

/-- Whether `cs` consists of digits and underscores and possibly an exponent. -/
def isFraction (cs : List Char) : Bool :=
  isExponent (cs.dropWhile isDigitOrUnderscore)

/-- Whether a number to the base sixty stands in `cs`, whose last group may be followed by a
point and digits if `point` is set, and has to be in that case. -/
def isSexagesimal (point : Bool) (cs : List Char) : Bool :=
  match Text.split (· == ':') cs with
  | first :: (g :: gs) =>
    let groups := g :: gs
    let last := groups.getLastD []
    let inner := groups.dropLast
    isDigits first && inner.all isSixtieth &&
      (if point then
        match last.span fun c => c != '.' with
        | (group, _ :: fraction) => isSixtieth group && fraction.all isDigitOrUnderscore
        | (_, []) => false
      else isSixtieth last)
  | _ => false

/-- Whether `cs` has the form of a floating-point number. -/
def isFloat (cs : List Char) : Bool :=
  let unsigned := dropSign cs
  (match unsigned.span fun c => c != '.' with
    | (whole, _ :: fraction) => isDigits whole && isFraction fraction
    | (_, []) => false) ||
  (match cs with
    | '.' :: d :: ds => isDigit d && isFraction ds
    | _ => false) ||
  isSexagesimal true unsigned ||
  [".inf", ".Inf", ".INF"].contains (String.ofList unsigned) ||
  [".nan", ".NaN", ".NAN"].contains (String.ofList cs)

/-- Whether `cs` has the form of an integer. -/
def isInt (cs : List Char) : Bool :=
  let unsigned := dropSign cs
  (match unsigned with
    | '0' :: 'b' :: d :: ds => (d :: ds).all fun c => c == '0' || c == '1' || c == '_'
    | _ => false) ||
  (match unsigned with
    | '0' :: 'x' :: d :: ds => (d :: ds).all fun c => (hexValue? c).isSome || c == '_'
    | _ => false) ||
  (match unsigned with
    | '0' :: ds => ds.all fun c => ('0' ≤ c && c ≤ '7') || c == '_'
    | _ => false) ||
  (match unsigned with
    | '0' :: _ => false
    | ds => isDigits ds || isSexagesimal false ds)

/-- The digits at the start of `cs`, at least `least` and at most `most` of them, and what
follows them. -/
def digits? (least most : Nat) (cs : List Char) : Option (List Char × List Char) :=
  let ds := (cs.takeWhile isDigit).take most
  if ds.length < least then none else some (ds, cs.drop ds.length)

/-- What follows the character `c` at the start of `cs`. -/
def after? (c : Char) : List Char → Option (List Char)
  | d :: ds => if d == c then some ds else none
  | [] => none

/-- The parts of a time, as they are written. -/
structure TimeText where
  /-- The year. -/
  year : List Char
  /-- The month. -/
  month : List Char
  /-- The day. -/
  day : List Char
  /-- The hour, the minute and the second, and the digits after the second. -/
  clock : Option (List Char × List Char × List Char × List Char)
  /-- The sign, the hours and the minutes of the offset; no sign stands for universal time. -/
  zone : Option (Option Char × List Char × List Char)

/-- Reads the offset at the end of a time; nothing may follow it. -/
def zone? (cs : List Char) : Option (Option (Option Char × List Char × List Char)) :=
  match cs with
  | [] => some none
  | _ =>
    match cs.dropWhile isSpaceOrTab with
    | ['Z'] => some (some (none, [], []))
    | sign :: ds => do
      if sign == '-' || sign == '+' then
        let (hours, ds) ← digits? 1 2 ds
        match ds with
        | [] => some (some (some sign, hours, []))
        | _ =>
          let ds ← after? ':' ds
          let (minutes, ds) ← digits? 2 2 ds
          if ds.isEmpty then some (some (some sign, hours, minutes)) else none
      else none
    | [] => none

/-- Reads the time of day of a time, which a letter or blanks separate from the date. -/
def clock? (cs : List Char) :
    Option ((List Char × List Char × List Char × List Char) × List Char) := do
  let cs ← match cs with
    | 'T' :: cs => some cs
    | 't' :: cs => some cs
    | c :: cs => if isSpaceOrTab c then some (cs.dropWhile isSpaceOrTab) else none
    | [] => none
  let (hour, cs) ← digits? 1 2 cs
  let cs ← after? ':' cs
  let (minute, cs) ← digits? 2 2 cs
  let cs ← after? ':' cs
  let (second, cs) ← digits? 2 2 cs
  match cs with
  | '.' :: cs => some ((hour, minute, second, cs.takeWhile isDigit), cs.dropWhile isDigit)
  | _ => some ((hour, minute, second, []), cs)

/-- The parts of a text that has the form of a time. -/
def timeText? (cs : List Char) : Option TimeText := do
  let (year, cs) ← digits? 4 4 cs
  let cs ← after? '-' cs
  let (month, cs) ← digits? 1 2 cs
  let cs ← after? '-' cs
  let (day, cs) ← digits? 1 2 cs
  match cs with
  | [] => some ⟨year, month, day, none, none⟩
  | _ =>
    let (clock, cs) ← clock? cs
    let zone ← zone? cs
    some ⟨year, month, day, some clock, zone⟩

/-- Whether a plain scalar has the form of a time: a date alone has two digits for its month and
for its day. -/
def isTime (cs : List Char) : Bool :=
  match timeText? cs with
  | some t => t.clock.isSome || (t.month.length == 2 && t.day.length == 2)
  | none => false

/-- A text without the line feed at its end, which the forms of types allow. -/
def dropFinalBreak (cs : List Char) : List Char :=
  if cs.getLast? == some '\n' then cs.dropLast else cs

/-- The tag of the type that follows from the text of a scalar. -/
def tagOf (text : String) : String :=
  let cs := dropFinalBreak text.toList
  let word := String.ofList cs
  if boolWords.contains word then standardTag "bool"
  else if isFloat cs then standardTag "float"
  else if isInt cs then standardTag "int"
  else if word == "<<" then standardTag "merge"
  else if text.isEmpty || (!word.isEmpty && nullWords.contains word) then standardTag "null"
  else if isTime cs then standardTag "timestamp"
  else if word == "=" then standardTag "value"
  else if word == "!" || word == "&" || word == "*" then standardTag "yaml"
  else standardTag "str"

end Implicit

end AgentPackage.Yaml
