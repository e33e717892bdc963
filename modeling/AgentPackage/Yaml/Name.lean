import AgentPackage.Yaml.ScalarText
import AgentPackage.Text.Utf8

/-!
# Reading names, tags and directives

Anchors and aliases are a word behind an indicator; a tag is a handle and a suffix, or a whole
address in angle brackets; a directive is a line that starts with a percent sign. Percent
escapes in tags denote the bytes of UTF-8 text.
-/

namespace AgentPackage.Yaml.Name

/-- Reads an anchor or an alias behind its indicator. -/
def anchor (c : Cursor) : Except Error (Token × Cursor) := do
  let start := c.mark
  let isReference := c.head == '*'
  let context := if isReference then "while scanning an alias" else "while scanning an anchor"
  let (name, c) := c.next.span isWordChar
  let unexpected := Error.within context start
    ("expected alphabetic or numeric character, but found " ++ shown c.head) c.mark
  if name.isEmpty then throw unexpected
  let d := c.head
  if !(isBlankOrEnd d || d == '?' || d == ':' || d == ',' || d == ']' || d == '\x7d' ||
      d == '%' || d == '@' || d.toNat == 0x60) then
    throw unexpected
  let name := String.ofList name
  return (⟨if isReference then .reference name else .anchor name, start, c.mark⟩, c)

/-- Reads a tag handle: `!`, or a word between two exclamation marks. -/
def handle (context : String) (start : Mark) (c : Cursor) : Except Error (String × Cursor) := do
  let unexpected (c : Cursor) : Error :=
    .within context start ("expected '!', but found " ++ shown c.head) c.mark
  if c.head != '!' then throw (unexpected c)
  if c.look 1 == ' ' then return ("!", c.next)
  let (word, c) := c.next.span isWordChar
  if c.head != '!' then throw (unexpected c)
  return ("!" ++ String.ofList word ++ "!", c.next)

/-- Whether `c` may stand in the address of a tag. -/
def isUriChar (c : Char) : Bool :=
  isWordChar c || "-;/?:@&=+$,_.!~*'()[]%".toList.contains c

/-- Reads a run of percent escapes as the bytes they denote. -/
def escapedBytes (context : String) (start : Mark) :
    Nat → List UInt8 → Cursor → Except Error (List UInt8 × Cursor)
  | 0, bytes, c => .ok (bytes.reverse, c)
  | budget + 1, bytes, c =>
    if c.head != '%' then .ok (bytes.reverse, c)
    else
      let c := c.next
      match badDigit? c 2 with
      | some bad =>
        .error (.within context start
          ("expected URI escape sequence of 2 hexadecimal numbers, but found " ++ shown bad)
          c.mark)
      | none =>
        let byte := (hexNumber (c.rest.take 2)).toUInt8
        escapedBytes context start budget (byte :: bytes) (c.advance 2)
where
  /-- The first of the next `count` characters that is no hexadecimal digit. -/
  badDigit? (c : Cursor) (count : Nat) : Option Char :=
    ((List.range count).map c.look).find? fun d => (hexValue? d).isNone

/-- Reads the characters of the address of a tag, percent escapes decoded; the flag says whether
anything was read. -/
def uriChars (context : String) (start : Mark) :
    Nat → Bool → List Char → Cursor → Except Error ((Bool × List Char) × Cursor)
  | 0, any, text, c => .ok ((any, text), c)
  | budget + 1, any, text, c => do
    let (part, c) := c.span fun d => isUriChar d && d != '%'
    let any := any || !part.isEmpty
    let text := text ++ part
    if c.head != '%' then return ((any, text), c)
    else
      let mark := c.mark
      let (bytes, c) ← escapedBytes context start (budget + 1) [] c
      match Text.Utf8.decode bytes with
      | .error fault => throw (.within context start fault.message mark)
      | .ok part => uriChars context start budget true (text ++ part) c

/-- Reads the address of a tag, which may not be empty. `what` is what is being read. -/
def uri (budget : Nat) (what : String) (start : Mark) (c : Cursor) :
    Except Error (String × Cursor) := do
  let ((any, text), c) ← uriChars ("while scanning a " ++ what) start budget false [] c
  if any then return (String.ofList text, c)
  else throw (.within ("while parsing a " ++ what) start
    ("expected URI, but found " ++ shown c.head) c.mark)

/-- Whether an exclamation mark stands among the characters up to the next space. -/
def hasHandle : List Char → Bool
  | [] => false
  | d :: ds => if isSpaceOrEnd d then false else d == '!' || hasHandle ds

/-- Reads a tag. -/
def tag (budget : Nat) (c : Cursor) : Except Error (Token × Cursor) := do
  let start := c.mark
  let d := c.look 1
  let ((handle?, suffix), c) ←
    if d == '<' then do
      let (suffix, c) ← uri budget "tag" start (c.advance 2)
      if c.head != '>' then
        throw (Error.within "while parsing a tag" start
          ("expected '>', but found " ++ shown c.head) c.mark)
      pure (((none : Option String), suffix), c.next)
    else if isBlankOrEnd d then pure ((none, "!"), c.next)
    else if hasHandle (c.rest.drop 1) then do
      let (h, c) ← handle "while scanning a tag" start c
      let (suffix, c) ← uri budget "tag" start c
      pure ((some h, suffix), c)
    else do
      let (suffix, c) ← uri budget "tag" start c.next
      pure ((some "!", suffix), c)
  if isSpaceOrEnd c.head then
    return (⟨.tag handle? suffix, start, c.mark⟩, c)
  else throw (Error.within "while scanning a tag" start
    ("expected ' ', but found " ++ shown c.head) c.mark)

/-- What is being read when a directive is read. -/
def directiveContext : String := "while scanning a directive"

/-- An error inside a directive that shows the character at the cursor. -/
def directiveError (start : Mark) (expected : String) (c : Cursor) : Error :=
  .within directiveContext start (expected ++ ", but found " ++ shown c.head) c.mark

/-- Reads a number of a version. As of any integer, a limited number of digits is converted. -/
def versionNumber (start : Mark) (c : Cursor) : Except Error (Nat × Cursor) :=
  match c.span isDigit with
  | ([], _) => .error (directiveError start "expected a digit" c)
  | (ds, c) =>
    if integerDigitLimit < ds.length then .error (.scalar (.digitLimit ds.length))
    else .ok (Decimal.natOfDigits ds, c)

/-- Reads the value of a directive that gives the version. -/
def version (start : Mark) (c : Cursor) : Except Error (Directive × Cursor) := do
  let (major, c) ← versionNumber start c.skipSpaces
  if c.head != '.' then throw (directiveError start "expected a digit or '.'" c)
  let (minor, c) ← versionNumber start c.next
  if !isSpaceOrEnd c.head then throw (directiveError start "expected a digit or ' '" c)
  return (.version major minor, c)

/-- Reads the value of a directive that defines a tag handle. -/
def tagDefinition (budget : Nat) (start : Mark) (c : Cursor) :
    Except Error (Directive × Cursor) := do
  let (h, c) ← handle directiveContext start c.skipSpaces
  if c.head != ' ' then throw (directiveError start "expected ' '" c)
  let (address, c) ← uri budget "directive" start c.skipSpaces
  if !isSpaceOrEnd c.head then throw (directiveError start "expected ' '" c)
  return (.tag h address, c)

/-- Reads a directive and the line break after it. -/
def directive (budget : Nat) (c : Cursor) : Except Error (Token × Cursor) := do
  let start := c.mark
  let (name, c) := c.next.span isWordChar
  if name.isEmpty || !isSpaceOrEnd c.head then
    throw (directiveError start "expected alphabetic or numeric character" c)
  let (d, stop, c) ←
    if name == "YAML".toList then do
      let (d, c) ← version start c
      pure (d, c.mark, c)
    else if name == "TAG".toList then do
      let (d, c) ← tagDefinition budget start c
      pure (d, c.mark, c)
    else pure (Directive.other, c.mark, c.skip fun e => !isBreakOrEnd e)
  let c ← ScalarText.ignoredLine directiveContext start c
  return (⟨.directive d, start, stop⟩, c)

end AgentPackage.Yaml.Name
