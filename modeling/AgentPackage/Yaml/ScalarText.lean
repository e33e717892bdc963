import AgentPackage.Yaml.Token

/-!
# Reading scalars

The three ways to write a scalar: with indentation behind `|` or `>`, in quotes, and plain. In
all of them lines are folded: a single line break between two lines becomes a space, and of
several the first is dropped. A literal block keeps its breaks. Each reader returns the token
and the cursor behind it; its loops are bounded by `budget`, for which the length of the text
suffices.
-/

namespace AgentPackage.Yaml

/-- What becomes of the line breaks at the end of a block scalar. -/
inductive Chomping where
  /-- The last break is kept. -/
  | clip
  /-- All breaks are kept. -/
  | keep
  /-- No break is kept. -/
  | strip
  deriving DecidableEq, Repr

namespace ScalarText

/-- The chomping indicator at the cursor. -/
def chomping? (c : Cursor) : Option Chomping :=
  if c.head == '+' then some .keep else if c.head == '-' then some .strip else none

/-- The indentation indicator at the cursor, which may not be zero. -/
def increment? (start : Mark) (c : Cursor) : Except Error (Option Nat × Cursor) :=
  if !isDigit c.head then .ok (none, c)
  else if c.head == '0' then
    .error (.within "while scanning a block scalar" start
      "expected indentation indicator in the range 1-9, but found 0" c.mark)
  else .ok (some (c.head.toNat - '0'.toNat), c.next)

/-- Reads the chomping and the indentation indicator of a block scalar, in either order. -/
def blockIndicators (start : Mark) (c : Cursor) :
    Except Error ((Chomping × Option Nat) × Cursor) := do
  let (result, c) ← match chomping? c with
    | some chomping => do
      let (increment, c) ← increment? start c.next
      pure ((chomping, increment), c)
    | none => do
      let (increment, c) ← increment? start c
      if increment.isSome then
        match chomping? c with
        | some chomping => pure ((chomping, increment), c.next)
        | none => pure ((.clip, increment), c)
      else pure ((.clip, none), c)
  if isSpaceOrEnd c.head then return (result, c)
  else throw (.within "while scanning a block scalar" start
    ("expected chomping or indentation indicators, but found " ++ shown c.head) c.mark)

/-- Moves behind the rest of a line that may hold nothing but a comment. -/
def ignoredLine (context : String) (start : Mark) (c : Cursor) : Except Error Cursor :=
  let c := c.skipSpaces.skipComment
  if isBreakOrEnd c.head then .ok c.lineBreak.2
  else .error (.within context start
    ("expected a comment or a line break, but found " ++ shown c.head) c.mark)

/-- The breaks in front of the first line of a block scalar that is not empty, and the greatest
column reached by spaces on the way. -/
def leadingBreaks : Nat → List Char → Nat → Cursor → List Char × Nat × Cursor
  | 0, breaks, deepest, c => (breaks, deepest, c)
  | budget + 1, breaks, deepest, c =>
    if c.head == ' ' then
      let c := c.next
      leadingBreaks budget breaks (max deepest c.column) c
    else if isBreak c.head then
      let (br, c) := c.lineBreak
      leadingBreaks budget (breaks ++ br) deepest c
    else (breaks, deepest, c)

/-- The breaks in front of the next line that is not empty, indented up to column `indent`. -/
def indentedBreaks (indent : Nat) : Nat → List Char → Cursor → List Char × Cursor
  | 0, breaks, c => (breaks, c)
  | budget + 1, breaks, c =>
    let c := c.skipIndent (indent - c.column)
    if isBreak c.head then
      let (br, c) := c.lineBreak
      indentedBreaks indent budget (breaks ++ br) c
    else (breaks, c)

/-- What of a block scalar has been read when its last line was passed. -/
structure BlockEnd where
  /-- The text so far, without the break after the last line. -/
  text : String
  /-- The break after the last line. -/
  lastBreak : List Char
  /-- The breaks after that. -/
  breaks : List Char
  /-- The cursor behind all of them. -/
  cursor : Cursor

/-- Reads the lines of a block scalar, each of which starts in column `indent`. -/
def blockLines (folded : Bool) (indent : Nat) :
    Nat → String → List Char → List Char → Cursor → BlockEnd
  | 0, text, lastBreak, breaks, c => ⟨text, lastBreak, breaks, c⟩
  | budget + 1, text, lastBreak, breaks, c =>
    if c.column == indent && c.head.toNat != 0 then
      let text := text ++ String.ofList breaks
      -- a line that starts with a blank keeps the breaks around it
      let flush := !isSpaceOrTab c.head
      let (line, c) := c.span fun d => !isBreakOrEnd d
      let text := text ++ String.ofList line
      let (lastBreak, c) := c.lineBreak
      let (breaks, c) := indentedBreaks indent (budget + 1) [] c
      if c.column == indent && c.head.toNat != 0 then
        let joint :=
          if folded && lastBreak == ['\n'] && flush && !isSpaceOrTab c.head then
            if breaks.isEmpty then [' '] else []
          else lastBreak
        blockLines folded indent budget (text ++ String.ofList joint) lastBreak breaks c
      else ⟨text, lastBreak, breaks, c⟩
    else ⟨text, lastBreak, breaks, c⟩

/-- Reads a block scalar whose lines start in column `outer` or later, and not in the first
column. -/
def block (budget outer : Nat) (folded : Bool) (c : Cursor) : Except Error (Token × Cursor) := do
  let start := c.mark
  let ((chomping, increment), c) ← blockIndicators start c.next
  let c ← ignoredLine "while scanning a block scalar" start c
  let least := max outer 1
  let (indent, breaks, c) := match increment with
    | none =>
      let (breaks, deepest, c) := leadingBreaks budget [] 0 c
      (max least deepest, breaks, c)
    | some n =>
      let indent := least + n - 1
      let (breaks, c) := indentedBreaks indent budget [] c
      (indent, breaks, c)
  let e := blockLines folded indent budget "" [] breaks c
  let text := match chomping with
    | .clip => e.text ++ String.ofList e.lastBreak
    | .keep => e.text ++ String.ofList (e.lastBreak ++ e.breaks)
    | .strip => e.text
  return (⟨.scalar text false, start, e.cursor.mark⟩, e.cursor)

/-- The character that an escape of one letter denotes. -/
def escaped? (c : Char) : Option Char :=
  match c with
  | '0' => some '\x00'
  | 'a' => some '\x07'
  | 'b' => some '\x08'
  | 't' => some '\t'
  | '\t' => some '\t'
  | 'n' => some '\n'
  | 'v' => some '\x0b'
  | 'f' => some '\x0c'
  | 'r' => some '\r'
  | 'e' => some '\x1b'
  | ' ' => some ' '
  | '\x22' => some '\x22'
  | '\\' => some '\\'
  | '/' => some '/'
  | 'N' => some (Char.ofNat 0x85)
  | '_' => some (Char.ofNat 0xA0)
  | 'L' => some (Char.ofNat 0x2028)
  | 'P' => some (Char.ofNat 0x2029)
  | _ => none

/-- The number of hexadecimal digits of an escape that gives a code. -/
def escapeLength? (c : Char) : Option Nat :=
  match c with
  | 'x' => some 2
  | 'u' => some 4
  | 'U' => some 8
  | _ => none

/-- Reads line breaks and the blanks around them inside a quoted scalar. -/
def quotedBreaks (start : Mark) : Nat → List Char → Cursor → Except Error (List Char × Cursor)
  | 0, breaks, c => .ok (breaks, c)
  | budget + 1, breaks, c =>
    if c.atDocumentMarker then
      .error (.within "while scanning a quoted scalar" start
        "found unexpected document separator" c.mark)
    else
      let c := c.skip isSpaceOrTab
      if isBreak c.head then
        let (br, c) := c.lineBreak
        quotedBreaks start budget (breaks ++ br) c
      else .ok (breaks, c)

/-- Reads the blanks at the cursor inside a quoted scalar, folding line breaks. -/
def quotedBlanks (budget : Nat) (start : Mark) (c : Cursor) :
    Except Error (List Char × Cursor) := do
  let (blanks, c) := c.span isSpaceOrTab
  if c.head.toNat == 0 then
    throw (.within "while scanning a quoted scalar" start
      "found unexpected end of stream" c.mark)
  else if isBreak c.head then
    let (br, c) := c.lineBreak
    let (breaks, c) ← quotedBreaks start budget [] c
    if br != ['\n'] then return (br ++ breaks, c)
    else if breaks.isEmpty then return ([' '], c)
    else return (breaks, c)
  else return (blanks, c)

/-- The first of the next `count` characters that is no hexadecimal digit. -/
def badDigit? (c : Cursor) (count : Nat) : Option Char :=
  ((List.range count).map c.look).find? fun d => (hexValue? d).isNone

/-- Reads an escape whose backslash stands before the cursor. One for half of a surrogate pair
denotes no character; the replacement character stands for it. -/
def escape (budget : Nat) (start : Mark) (c : Cursor) : Except Error (List Char × Cursor) := do
  let d := c.head
  if let some e := escaped? d then
    return ([e], c.next)
  else if let some count := escapeLength? d then
    let c := c.next
    match badDigit? c count with
    | some bad =>
      throw (.within "while scanning a double-quoted scalar" start
        ("expected escape sequence of " ++ toString count ++
          " hexadecimal numbers, but found " ++ shown bad) c.mark)
    | none =>
      let code := hexNumber (c.rest.take count)
      if 0x10FFFF < code then throw (.scalar (.character code))
      else
        let e := if 0xD800 ≤ code && code ≤ 0xDFFF then Char.ofNat 0xFFFD else Char.ofNat code
        return ([e], c.advance count)
  else if isBreak d then
    quotedBreaks start budget [] c.lineBreak.2
  else
    throw (.within "while scanning a double-quoted scalar" start
      ("found unknown escape character " ++ shown d) c.mark)

/-- Whether `c` is neither a blank nor one of the characters that are special in quotes. -/
def isQuotedChar (c : Char) : Bool :=
  !isBlankOrEnd c && c != '\'' && c != '\x22' && c != '\\'

/-- Reads the characters of a quoted scalar up to the next blank or the closing quote. -/
def quotedWord (start : Mark) (double : Bool) :
    Nat → String → Cursor → Except Error (String × Cursor)
  | 0, text, c => .ok (text, c)
  | budget + 1, text, c => do
    let (word, c) := c.span isQuotedChar
    let text := text ++ String.ofList word
    let d := c.head
    if !double && d == '\'' && c.look 1 == '\'' then
      quotedWord start double budget (text.push '\'') (c.advance 2)
    else if (double && d == '\'') || (!double && (d == '\x22' || d == '\\')) then
      quotedWord start double budget (text.push d) c.next
    else if double && d == '\\' then
      let (e, c) ← escape (budget + 1) start c.next
      quotedWord start double budget (text ++ String.ofList e) c
    else return (text, c)

/-- Reads the words and blanks of a quoted scalar up to its closing quote. -/
def quotedRest (start : Mark) (double : Bool) :
    Nat → String → Cursor → Except Error (String × Cursor)
  | 0, text, c => .ok (text, c)
  | budget + 1, text, c =>
    if c.head == (if double then '\x22' else '\'') then .ok (text, c)
    else do
      let (blanks, c) ← quotedBlanks (budget + 1) start c
      let (text, c) ← quotedWord start double (budget + 1) (text ++ String.ofList blanks) c
      quotedRest start double budget text c

/-- Reads a scalar in single or double quotes. -/
def quoted (budget : Nat) (double : Bool) (c : Cursor) : Except Error (Token × Cursor) := do
  let start := c.mark
  let (text, c) ← quotedWord start double budget "" c.next
  let (text, c) ← quotedRest start double budget text c
  let c := c.next
  return (⟨.scalar text false, start, c.mark⟩, c)

/-- Whether `c` is one of the indicators of flow collections. -/
def isFlowIndicator (c : Char) : Bool :=
  c == ',' || c == '[' || c == ']' || c == '\x7b' || c == '\x7d'

/-- Whether a plain scalar ends before the character `d`, which `next` follows. -/
def plainEnds (inFlow : Bool) (d next : Char) : Bool :=
  isBlankOrEnd d ||
    (d == ':' && (isBlankOrEnd next || (inFlow && isFlowIndicator next))) ||
    (inFlow && (d == '?' || isFlowIndicator d))

/-- How many characters a plain scalar goes on from the start of `cs`. -/
def plainLength (inFlow : Bool) : List Char → Nat
  | [] => 0
  | d :: ds => if plainEnds inFlow d (ds.headD '\x00') then 0 else plainLength inFlow ds + 1

/-- Reads spaces and line breaks after a line of a plain scalar. There is no result when a
document marker starts a line. -/
def plainBreaks : Nat → List Char → Cursor → Option (List Char) × Cursor
  | 0, breaks, c => (some breaks, c)
  | budget + 1, breaks, c =>
    if c.head == ' ' then plainBreaks budget breaks c.next
    else if isBreak c.head then
      let (br, c) := c.lineBreak
      if c.atDocumentMarker then (none, c) else plainBreaks budget (breaks ++ br) c
    else (some breaks, c)

/-- What follows a line of a plain scalar. -/
structure PlainGap where
  /-- The characters that the gap contributes if the scalar goes on; none if it ends here. -/
  text : List Char
  /-- Whether a line break was passed. -/
  broken : Bool
  /-- The cursor behind the gap. -/
  cursor : Cursor

/-- Reads the spaces and line breaks between two words of a plain scalar, folding the breaks. -/
def plainGap (budget : Nat) (c : Cursor) : PlainGap :=
  let (spaces, c) := c.span (· == ' ')
  if isBreak c.head then
    let (br, c) := c.lineBreak
    if c.atDocumentMarker then ⟨[], true, c⟩
    else match plainBreaks budget [] c with
      | (none, c) => ⟨[], true, c⟩
      | (some breaks, c) =>
        if br != ['\n'] then ⟨br ++ breaks, true, c⟩
        else if breaks.isEmpty then ⟨[' '], true, c⟩
        else ⟨breaks, true, c⟩
  else ⟨spaces, false, c⟩

/-- What of a plain scalar has been read at its end. -/
structure PlainEnd where
  /-- The text. -/
  text : String
  /-- The end of the last word. -/
  stop : Mark
  /-- Whether the cursor stands behind a line break that follows the scalar. -/
  broken : Bool
  /-- The cursor behind the scalar and the blanks after it. -/
  cursor : Cursor

/-- Reads the words of a plain scalar. In block context every line after the first starts in
column `indent` or later. `gap` holds what the blanks before the cursor contribute. -/
def plainWords (inFlow : Bool) (indent : Nat) :
    Nat → String → List Char → Mark → Bool → Cursor → PlainEnd
  | 0, text, _, stop, broken, c => ⟨text, stop, broken, c⟩
  | budget + 1, text, gap, stop, broken, c =>
    if c.head == '#' then ⟨text, stop, broken, c⟩
    else
      let n := plainLength inFlow c.rest
      if n == 0 then ⟨text, stop, broken, c⟩
      else
        -- what stands between two words counts once the second one is there
        let text := text ++ String.ofList (gap ++ c.rest.take n)
        let c := c.advance n
        let stop := c.mark
        let g := plainGap (budget + 1) c
        if g.text.isEmpty || g.cursor.head == '#' ||
            (!inFlow && g.cursor.column < indent) then
          ⟨text, stop, g.broken, g.cursor⟩
        else plainWords inFlow indent budget text g.text stop g.broken g.cursor

/-- Reads a plain scalar; the second component says whether a line break follows it. -/
def plain (budget : Nat) (inFlow : Bool) (indent : Nat) (c : Cursor) :
    Token × Bool × Cursor :=
  let e := plainWords inFlow indent budget "" [] c.mark false c
  (⟨.scalar e.text true, c.mark, e.stop⟩, e.broken, e.cursor)

end ScalarText

end AgentPackage.Yaml
