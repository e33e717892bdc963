import AgentPackage.Json.Error

/-!
# Reading JSON

A reader for JSON texts, with the three numbers that are no finite decimals, `NaN`, `Infinity`
and `-Infinity`. Of entries with the same name the last one gives the value and the first one
the position. Every reader below takes a cursor and returns the cursor behind what it read. Arrays
and objects are read by calls one inside the other, for which there is only so much room.
-/

namespace AgentPackage.Json

/-- A place in a text: what is left of it and the offset of its first character. -/
structure Cursor where
  /-- The characters that are left. -/
  rest : List Char
  /-- The number of characters before them. -/
  offset : Nat

/-- The blanks that may stand between the tokens of a JSON text. -/
def isSpace (c : Char) : Bool :=
  c == ' ' || c == '\t' || c == '\n' || c == '\r'

/-- Moves behind the characters at the cursor that satisfy `p`, and returns them. -/
def Cursor.span (p : Char → Bool) (c : Cursor) : List Char × Cursor :=
  let taken := c.rest.takeWhile p
  (taken, ⟨c.rest.dropWhile p, c.offset + taken.length⟩)

/-- Moves behind the blanks at the cursor. -/
def Cursor.skipSpace (c : Cursor) : Cursor :=
  (c.span isSpace).2

/-- Moves behind the next `n` characters. -/
def Cursor.advance (c : Cursor) (n : Nat) : Cursor :=
  ⟨c.rest.drop n, c.offset + n⟩

/-- A problem at the cursor. -/
def Cursor.problem {α : Type} (c : Cursor) (p : Problem) : Except Error α :=
  .error (.malformed p c.offset)

/-- The value of a hexadecimal digit. -/
def hexValue? (c : Char) : Option Nat :=
  if '0' ≤ c && c ≤ '9' then some (c.toNat - '0'.toNat)
  else if 'a' ≤ c && c ≤ 'f' then some (c.toNat - 'a'.toNat + 10)
  else if 'A' ≤ c && c ≤ 'F' then some (c.toNat - 'A'.toNat + 10)
  else none

/-- The number that four hexadecimal digits denote, when a character follows them. -/
def hexUnit? : List Char → Option Nat
  | a :: b :: c :: d :: _ :: _ => do
    return (((← hexValue? a) * 16 + (← hexValue? b)) * 16 + (← hexValue? c)) * 16 +
      (← hexValue? d)
  | _ => none

/-- The second half of a surrogate pair, when an escape that denotes one follows. -/
def lowSurrogate? : List Char → Option Nat
  | '\\' :: 'u' :: cs => (hexUnit? cs).filter fun n => 0xDC00 ≤ n && n ≤ 0xDFFF
  | _ => none

/-- The character that an escape of one letter denotes. -/
def escaped? : Char → Option Char
  | '\x22' => some '\x22'
  | '\\' => some '\\'
  | '/' => some '/'
  | 'b' => some '\x08'
  | 'f' => some '\x0c'
  | 'n' => some '\n'
  | 'r' => some '\r'
  | 't' => some '\t'
  | _ => none

/-- Reads the rest of a string whose opening quote stands at offset `start`. `acc` holds the
characters read so far, latest first, and `budget` bounds the number of steps. An escape for half
of a surrogate pair denotes no character; the replacement character stands for it. -/
def readString (start : Nat) : Nat → List Char → Cursor → Except Error (String × Cursor)
  | 0, _, _ => .error (.malformed .unterminatedString start)
  | budget + 1, acc, c =>
    match c.rest with
    | [] => .error (.malformed .unterminatedString start)
    | '\x22' :: _ => .ok (String.ofList acc.reverse, c.advance 1)
    | ['\\'] => .error (.malformed .unterminatedString start)
    | '\\' :: 'u' :: cs =>
      match hexUnit? cs with
      | none => (c.advance 1).problem .incompleteEscape
      | some n =>
        if 0xD800 ≤ n && n ≤ 0xDBFF then
          match lowSurrogate? (cs.drop 4) with
          | some m =>
            let code := 0x10000 + (n - 0xD800) * 0x400 + (m - 0xDC00)
            readString start budget (Char.ofNat code :: acc) (c.advance 12)
          | none => readString start budget (Char.ofNat 0xFFFD :: acc) (c.advance 6)
        else if 0xDC00 ≤ n && n ≤ 0xDFFF then
          readString start budget (Char.ofNat 0xFFFD :: acc) (c.advance 6)
        else readString start budget (Char.ofNat n :: acc) (c.advance 6)
    | '\\' :: e :: _ =>
      match escaped? e with
      | some d => readString start budget (d :: acc) (c.advance 2)
      | none => c.problem .unknownEscape
    | d :: _ =>
      if d.toNat < 0x20 then c.problem .controlCharacter
      else readString start budget (d :: acc) (c.advance 1)

/-- The parts of a number: its sign, its digits before the point, and, when it is no integer,
the digits after the point and the exponent. -/
structure Number where
  /-- Whether a minus sign stands in front. -/
  negative : Bool
  /-- The digits before the point. -/
  whole : List Char
  /-- The digits after the point, if there is a point. -/
  fraction : Option (List Char)
  /-- The exponent, if there is one. -/
  exponent : Option Int

/-- Reads the digits of a fraction when a point and a digit stand at the cursor. -/
def readFraction (c : Cursor) : Option (List Char) × Cursor :=
  match c.rest with
  | '.' :: d :: _ =>
    if d.isDigit then
      let (ds, c') := (c.advance 1).span Char.isDigit
      (some ds, c')
    else (none, c)
  | _ => (none, c)

/-- Reads an exponent when the letter, an optional sign and a digit stand at the cursor. -/
def readExponent (c : Cursor) : Option Int × Cursor :=
  let signed (negative : Bool) (c' : Cursor) : Option Int × Cursor :=
    match c'.span Char.isDigit with
    | ([], _) => (none, c)
    | (ds, c'') =>
      let n : Int := Decimal.natOfDigits ds
      (some (if negative then -n else n), c'')
  match c.rest with
  | 'e' :: '-' :: _ | 'E' :: '-' :: _ => signed true (c.advance 2)
  | 'e' :: '+' :: _ | 'E' :: '+' :: _ => signed false (c.advance 2)
  | 'e' :: _ | 'E' :: _ => signed false (c.advance 1)
  | _ => (none, c)

/-- Reads a number, if one stands at the cursor. -/
def readNumber? (c : Cursor) : Option (Number × Cursor) :=
  let (negative, c₁) := match c.rest with
    | '-' :: _ => (true, c.advance 1)
    | _ => (false, c)
  let whole? := match c₁.rest with
    | '0' :: _ => some (['0'], c₁.advance 1)
    | d :: _ => if d.isDigit then some (c₁.span Char.isDigit) else none
    | [] => none
  whole?.map fun (whole, c₂) =>
    let (fraction, c₃) := readFraction c₂
    let (exponent, c₄) := readExponent c₃
    (⟨negative, whole, fraction, exponent⟩, c₄)

/-- The value of a number; an integer may not have too many digits. -/
def Number.value (n : Number) : Except Error Value :=
  match n.fraction, n.exponent with
  | none, none =>
    if integerDigitLimit < n.whole.length then .error (.scalar (.digitLimit n.whole.length))
    else
      let i : Int := Decimal.natOfDigits n.whole
      .ok (.int (if n.negative then -i else i))
  | fraction, exponent =>
    let fraction := fraction.getD []
    let x := Decimal.floatOfDecimal (Decimal.natOfDigits (n.whole ++ fraction))
      (exponent.getD 0 - fraction.length)
    .ok (.float (if n.negative then -x else x))

/-- The values that are written as a word. -/
def literals : List (List Char × Value) :=
  [("null".toList, .null), ("true".toList, .bool true), ("false".toList, .bool false),
   ("NaN".toList, .float (0.0 / 0.0)), ("Infinity".toList, .float (1.0 / 0.0)),
   ("-Infinity".toList, .float (-1.0 / 0.0))]

/-- Reads a literal or a number. -/
def readAtom (c : Cursor) : Except Error (Value × Cursor) :=
  match literals.find? fun l => l.1.isPrefixOf c.rest with
  | some (word, v) => .ok (v, c.advance word.length)
  | none =>
    match readNumber? c with
    | some (n, c') => return (← n.value, c')
    | none => c.problem .expectingValue

/-- Goes on behind a bracket if there is room for one more call. -/
def enter {α : Type} (call : Call) (room : Nat) (inside : Nat → Except Error α) : Except Error α :=
  match room with
  | 0 => .error (.scalar (@ScalarFault.endlessText call))
  | room + 1 => inside room

mutual

/-- Reads the value at the cursor. The budget bounds how deep values lie and how many elements
they have, and there is room for so many calls. -/
def readValue : Nat → Nat → Cursor → Except Error (Value × Cursor)
  | 0, _, c => c.problem .expectingValue
  | budget + 1, room, c =>
    match c.rest with
    | '\x22' :: _ => do
      let (s, c') ← readString c.offset budget [] (c.advance 1)
      return (.str s, c')
    | '[' :: _ =>
      enter .array room fun room =>
        let c₁ := (c.advance 1).skipSpace
        match c₁.rest with
        | ']' :: _ => .ok (.list [], c₁.advance 1)
        | _ => do
          let (xs, c₂) ← readElements budget room c₁
          return (.list xs, c₂)
    | '{' :: _ =>
      enter .mapping room fun room =>
        let c₁ := (c.advance 1).skipSpace
        match c₁.rest with
        | '}' :: _ => .ok (.map [], c₁.advance 1)
        | _ => do
          let (es, c₂) ← readEntries budget room c₁
          return (.map (Fields.ofList es), c₂)
    | _ => readAtom c

/-- Reads the elements of an array, up to and with its closing bracket. -/
def readElements : Nat → Nat → Cursor → Except Error (List Value × Cursor)
  | 0, _, c => c.problem .expectingValue
  | budget + 1, room, c => do
    let (v, c₁) ← readValue budget room c
    let c₂ := c₁.skipSpace
    match c₂.rest with
    | ']' :: _ => return ([v], c₂.advance 1)
    | ',' :: _ =>
      let (vs, c₃) ← readElements budget room (c₂.advance 1).skipSpace
      return (v :: vs, c₃)
    | _ => c₂.problem .expectingComma

/-- Reads the entries of an object, up to and with its closing brace. -/
def readEntries : Nat → Nat → Cursor → Except Error (List (Value × Value) × Cursor)
  | 0, _, c => c.problem .expectingName
  | budget + 1, room, c =>
    match c.rest with
    | '\x22' :: _ => do
      let (key, c₁) ← readString c.offset budget [] (c.advance 1)
      let c₂ := c₁.skipSpace
      match c₂.rest with
      | ':' :: _ =>
        let (v, c₃) ← readValue budget room (c₂.advance 1).skipSpace
        let c₄ := c₃.skipSpace
        match c₄.rest with
        | '}' :: _ => return ([(.str key, v)], c₄.advance 1)
        | ',' :: _ =>
          let (es, c₅) ← readEntries budget room (c₄.advance 1).skipSpace
          return ((.str key, v) :: es, c₅)
        | _ => c₄.problem .expectingComma
      | _ => c₂.problem .expectingColon
    | _ => c.problem .expectingName

end

/-- The value of a JSON text. -/
def read (text : List Char) : Except Error Value :=
  match text with
  | c :: _ =>
    if c.toNat == 0xFEFF then .error (.malformed .byteOrderMark 0) else readWhole text
  | [] => readWhole text
where
  /-- Reads a text that has no byte order mark. -/
  readWhole (text : List Char) : Except Error Value := do
    -- an opening bracket takes two of the budget: one for the array, one for its element
    let (v, c) ← readValue (2 * text.length + 2) callRoom (Cursor.mk text 0).skipSpace
    let c := c.skipSpace
    if c.rest.isEmpty then return v else c.problem .extraData

end AgentPackage.Json
