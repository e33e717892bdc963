import AgentPackage.Value.Fault

/-!
# Values in messages

The text by which messages show a value, the name of its type, and the way long texts are cut
in the middle.
-/

namespace AgentPackage.Value

/-- The name of the type of a value. -/
def typeName : Value → String
  | .null => "NoneType"
  | .bool _ => "bool"
  | .int _ => "int"
  | .float _ => "float"
  | .str _ => "str"
  | .date _ => "date"
  | .dateTime _ => "datetime"
  | .bytes _ => "bytes"
  | .list _ => "list"
  | .tuple _ => "tuple"
  | .set _ => "set"
  | .map _ => "dict"

/-- The text of an offset in messages. -/
def shownOffset (minutes : Int) : String :=
  if minutes == 0 then "datetime.timezone.utc"
  else
    let days := minutes.fdiv 1440
    let seconds := minutes.fmod 1440 * 60
    let days := if days == 0 then [] else ["days=" ++ toString days]
    "datetime.timezone(datetime.timedelta(" ++
      ", ".intercalate (days ++ ["seconds=" ++ toString seconds]) ++ "))"

/-- The text of a date's parts in messages. -/
def shownDate (d : Date) : String :=
  toString d.year ++ ", " ++ toString d.month ++ ", " ++ toString d.day

/-- The text of a time in messages. -/
def shownDateTime (t : DateTime) : String :=
  let seconds :=
    if t.second == 0 && t.microsecond == 0 then [] else [toString t.second]
  let micro := if t.microsecond == 0 then [] else [toString t.microsecond]
  let zone := match t.offset with
    | some m => ["tzinfo=" ++ shownOffset m]
    | none => []
  "datetime.datetime(" ++ ", ".intercalate
    ([shownDate t.date, toString t.hour, toString t.minute] ++ seconds ++ micro ++ zone) ++ ")"

/-- The text of a byte in messages, inside the quotation mark `quote`. -/
def shownByte (quote : Char) (b : UInt8) : List Char :=
  let c := Char.ofNat b.toNat
  if c == quote || c == '\\' then ['\\', c]
  else if c == '\t' then ['\\', 't']
  else if c == '\n' then ['\\', 'n']
  else if c == '\r' then ['\\', 'r']
  else if 0x20 ≤ b.toNat && b.toNat < 0x7F then [c]
  else '\\' :: 'x' :: Text.hexDigits 2 b.toNat

/-- The text of binary data in messages. -/
def shownBytes (bs : List UInt8) : String :=
  let cs := bs.map fun b => Char.ofNat b.toNat
  let quote := if cs.contains '\'' && !cs.contains '\x22' then '\x22' else '\''
  String.ofList ('b' :: quote :: (bs.flatMap (shownByte quote) ++ [quote]))

mutual

/-- The text by which messages show a value. -/
def shown : Value → String
  | .null => "None"
  | .bool b => if b then "True" else "False"
  | .int i => toString i
  | .float x => Decimal.floatText Decimal.plainLayout x
  | .str s => Text.quoted s
  | .date d => "datetime.date(" ++ shownDate d ++ ")"
  | .dateTime t => shownDateTime t
  | .bytes bs => shownBytes bs
  | .list xs => "[" ++ ", ".intercalate (shownAll xs) ++ "]"
  | .tuple [x] => "(" ++ shown x ++ ",)"
  | .tuple xs => "(" ++ ", ".intercalate (shownAll xs) ++ ")"
  | .set [] => "set()"
  | .set xs => "\x7b" ++ ", ".intercalate (shownAll xs) ++ "\x7d"
  | .map es => "\x7b" ++ ", ".intercalate (shownEntries es) ++ "\x7d"

/-- The texts of several values. -/
def shownAll : List Value → List String
  | [] => []
  | x :: xs => shown x :: shownAll xs

/-- The texts of entries of a mapping. -/
def shownEntries : List (Value × Value) → List String
  | [] => []
  | (k, v) :: es => (shown k ++ ": " ++ shown v) :: shownEntries es

end

/-- How many bytes of a text are shown uncut. -/
def shownLimit : Nat := 50

/-- The longest beginning of `cs` whose encoding has at most `limit` bytes. -/
def takeBytes (limit : Nat) : List Char → List Char
  | [] => []
  | c :: cs => if c.utf8Size ≤ limit then c :: takeBytes (limit - c.utf8Size) cs else []

/-- A text, cut in the middle if its encoding is longer than fifty bytes: at most 25 bytes of
its beginning and at most 24 of its end are left. -/
def abbreviated (s : String) : String :=
  if s.utf8ByteSize ≤ shownLimit then s
  else
    let cs := s.toList
    String.ofList (takeBytes 25 cs ++ "...".toList ++ (takeBytes 24 cs.reverse).reverse)

end AgentPackage.Value
