import AgentPackage.Yaml.Name

/-!
# From text to tokens

Splits a text into tokens. The state keeps the columns of the block collections around the
cursor, the depth of flow collections, and for each flow depth the last place where a key may
have started: a `:` later in the same line turns what stands there into a key, so a token is
given out only when nothing can be put in front of it any more.

The tokens are given out up to the first error; who consumes them meets the error only when
asking for a token behind them.
-/

namespace AgentPackage.Yaml

/-- A place where a key may have started. -/
structure KeyStart where
  /-- The number of tokens in front of it. -/
  tokenNumber : Nat
  /-- Whether only a key can stand there. -/
  required : Bool
  /-- The place. -/
  mark : Mark
  deriving Repr

/-- The state of the splitting of a text into tokens. -/
structure TokenState where
  /-- The place that has been reached. -/
  cursor : Cursor
  /-- A bound for the loops inside one token: the length of the text. -/
  budget : Nat
  /-- Whether the end of the text has been given out. -/
  done : Bool
  /-- How many flow collections are open. -/
  flowDepth : Nat
  /-- The tokens that have been read and not given out. -/
  pending : List Token
  /-- How many tokens have been given out. -/
  taken : Nat
  /-- One more than the column of the innermost block collection, zero outside of all. -/
  indent : Nat
  /-- The same for the block collections around it, innermost first. -/
  outerIndents : List Nat
  /-- Whether a key may start at the cursor. -/
  keyAllowed : Bool
  /-- The places where keys may have started, by flow depth. -/
  keyStarts : List (Nat × KeyStart)

namespace TokenState

/-- The state in front of a text. -/
def initial (text : List Char) : TokenState :=
  let start : Mark := ⟨0, 0, 0⟩
  { cursor := ⟨text, start⟩, budget := text.length + 2, done := false, flowDepth := 0,
    pending := [⟨.streamStart, start, start⟩], taken := 0, indent := 0, outerIndents := [],
    keyAllowed := true, keyStarts := [] }

/-- The place that has been reached. -/
def mark (s : TokenState) : Mark :=
  s.cursor.mark

/-- Appends a token to those that have been read. -/
def emit (s : TokenState) (t : Token) : TokenState :=
  { s with pending := s.pending ++ [t] }

/-- Appends a token that takes up no characters. -/
def emitHere (s : TokenState) (k : TokenKind) : TokenState :=
  s.emit ⟨k, s.mark, s.mark⟩

/-- Appends a token that consists of the next `n` characters. -/
def emitChars (s : TokenState) (k : TokenKind) (n : Nat) : TokenState :=
  let c := s.cursor.advance n
  { s with cursor := c, pending := s.pending ++ [⟨k, s.mark, c.mark⟩] }

/-- Inserts a token in front of the token with the given number. -/
def insert (s : TokenState) (number : Nat) (t : Token) : TokenState :=
  { s with pending := s.pending.insertIdx (number - s.taken) t }

/-- The error of a place where a key had to start and did not. -/
def keyError (s : TokenState) (k : KeyStart) : Error :=
  .within "while scanning a simple key" k.mark "could not find expected ':'" s.mark

/-- Drops the places in other lines and those too far back: no key can start there any more. -/
def dropStale (s : TokenState) : Except Error TokenState := do
  -- a key that is not announced by `?` ends in its line, within 1024 characters
  let isStale (k : KeyStart) : Bool :=
    k.mark.line != s.mark.line || 1024 < s.mark.index - k.mark.index
  match s.keyStarts.find? fun e => isStale e.2 && e.2.required with
  | some (_, k) => throw (s.keyError k)
  | none => return { s with keyStarts := s.keyStarts.filter fun e => !isStale e.2 }

/-- Drops the place at the present flow depth. -/
def dropKeyStart (s : TokenState) : Except Error TokenState :=
  match s.keyStarts.lookup s.flowDepth with
  | none => .ok s
  | some k =>
    if k.required then .error (s.keyError k)
    else .ok { s with keyStarts := s.keyStarts.filter fun e => e.1 != s.flowDepth }

/-- Remembers the cursor as a place where a key may start, if one is allowed there. -/
def saveKeyStart (s : TokenState) : Except Error TokenState := do
  if s.keyAllowed then
    let s ← s.dropKeyStart
    -- in the column of a block mapping nothing but its next key can stand
    let required := s.flowDepth == 0 && s.indent == s.cursor.column + 1
    let k : KeyStart := ⟨s.taken + s.pending.length, required, s.mark⟩
    return { s with keyStarts := s.keyStarts ++ [(s.flowDepth, k)] }
  else return s

/-- Ends the block collections that are indented deeper than `indent`. -/
def unwindTo (indent : Nat) : Nat → TokenState → TokenState
  | 0, s => s
  | budget + 1, s =>
    if indent < s.indent then
      unwindTo indent budget
        { s.emitHere .blockEnd with
          indent := s.outerIndents.headD 0, outerIndents := s.outerIndents.drop 1 }
    else s

/-- Ends the block collections that are indented deeper than `indent`, in block context. -/
def unwind (s : TokenState) (indent : Nat) : TokenState :=
  if s.flowDepth == 0 then unwindTo indent (s.outerIndents.length + 1) s else s

/-- Starts a block collection at `column` if it is indented deeper than the one around it; the
flag says whether it is. -/
def indentTo (s : TokenState) (column : Nat) : Bool × TokenState :=
  if s.indent < column + 1 then
    (true, { s with indent := column + 1, outerIndents := s.indent :: s.outerIndents })
  else (false, s)

/-- Moves behind the blanks, comments and line breaks at the cursor. After a line break in block
context a key may start. -/
def skipToToken : Nat → TokenState → TokenState
  | 0, s => s
  | budget + 1, s =>
    let c := s.cursor.skipSpaces.skipComment
    if isBreak c.head then
      skipToToken budget { s with
        cursor := c.lineBreak.2, keyAllowed := s.keyAllowed || s.flowDepth == 0 }
    else { s with cursor := c }

/-- Reads the end of the text. -/
def readEnd (s : TokenState) : Except Error TokenState := do
  let s ← (s.unwind 0).dropKeyStart
  return { s.emitHere .streamEnd with keyAllowed := false, keyStarts := [], done := true }

/-- Reads a directive. -/
def readDirective (s : TokenState) : Except Error TokenState := do
  let s ← (s.unwind 0).dropKeyStart
  let (t, c) ← Name.directive s.budget s.cursor
  return { s.emit t with keyAllowed := false, cursor := c }

/-- Reads a marker of a document's start or end. -/
def readMarker (s : TokenState) (k : TokenKind) : Except Error TokenState := do
  let s ← (s.unwind 0).dropKeyStart
  return { s.emitChars k 3 with keyAllowed := false }

/-- Reads the start of a flow collection, which may be a key. -/
def readFlowStart (s : TokenState) (k : TokenKind) : Except Error TokenState := do
  let s ← s.saveKeyStart
  return { s.emitChars k 1 with flowDepth := s.flowDepth + 1, keyAllowed := true }

/-- Reads the end of a flow collection. -/
def readFlowEnd (s : TokenState) (k : TokenKind) : Except Error TokenState := do
  let s ← s.dropKeyStart
  return { s.emitChars k 1 with flowDepth := s.flowDepth - 1, keyAllowed := false }

/-- Reads the indicator between the entries of a flow collection. -/
def readFlowEntry (s : TokenState) : Except Error TokenState := do
  let s ← s.dropKeyStart
  return { s.emitChars .flowEntry 1 with keyAllowed := true }

/-- Starts a block collection at the cursor where an indicator of it stands, in block context. -/
def openBlock (s : TokenState) (problem : String) (k : TokenKind) : Except Error TokenState :=
  if s.flowDepth != 0 then .ok s
  else if !s.keyAllowed then .error (.plain problem s.mark)
  else
    let (deeper, s') := s.indentTo s.cursor.column
    .ok (if deeper then s'.emitHere k else s')

/-- Reads the indicator of an entry of a block sequence. -/
def readBlockEntry (s : TokenState) : Except Error TokenState := do
  let s ← s.openBlock "sequence entries are not allowed here" .blockSequenceStart
  let s ← s.dropKeyStart
  return { s.emitChars .blockEntry 1 with keyAllowed := true }

/-- Reads the indicator of a key. -/
def readKey (s : TokenState) : Except Error TokenState := do
  let s ← s.openBlock "mapping keys are not allowed here" .blockMappingStart
  let s ← s.dropKeyStart
  return { s.emitChars .key 1 with keyAllowed := s.flowDepth == 0 }

/-- Reads the indicator of a value, which turns what stands at the last place where a key may
have started into a key. -/
def readValue (s : TokenState) : Except Error TokenState := do
  match s.keyStarts.lookup s.flowDepth with
  | some k =>
    let s := { s with keyStarts := s.keyStarts.filter fun e => e.1 != s.flowDepth }
    let s := s.insert k.tokenNumber ⟨.key, k.mark, k.mark⟩
    -- the first key of a block mapping starts the mapping too, in front of itself
    let s :=
      if s.flowDepth == 0 then
        let (deeper, s') := s.indentTo k.mark.column
        if deeper then s'.insert k.tokenNumber ⟨.blockMappingStart, k.mark, k.mark⟩ else s'
      else s
    return { s.emitChars .value 1 with keyAllowed := false }
  | none =>
    let s ← s.openBlock "mapping values are not allowed here" .blockMappingStart
    let s ← s.dropKeyStart
    return { s.emitChars .value 1 with keyAllowed := s.flowDepth == 0 }

/-- Reads a token that may be a key by itself: an alias, an anchor, a tag or a quoted scalar. -/
def readKeyable (s : TokenState) (read : Cursor → Except Error (Token × Cursor)) :
    Except Error TokenState := do
  let s ← s.saveKeyStart
  let (t, c) ← read s.cursor
  return { s.emit t with keyAllowed := false, cursor := c }

/-- Reads a block scalar. -/
def readBlockScalar (s : TokenState) (folded : Bool) : Except Error TokenState := do
  let s ← s.dropKeyStart
  let (t, c) ← ScalarText.block s.budget s.indent folded s.cursor
  return { s.emit t with keyAllowed := true, cursor := c }

/-- Reads a plain scalar; a key may follow when a line break does. -/
def readPlain (s : TokenState) : Except Error TokenState := do
  let s ← s.saveKeyStart
  let (t, broken, c) := ScalarText.plain s.budget (s.flowDepth != 0) s.indent s.cursor
  return { s.emit t with keyAllowed := broken, cursor := c }

/-- Whether a plain scalar may start with `c`, which `next` follows. -/
def startsPlain (inFlow : Bool) (c next : Char) : Bool :=
  !(isBlankOrEnd c || "-?:,[]\x7b\x7d#&*!|>'\x22%@\x60".toList.contains c) ||
    (!isBlankOrEnd next && (c == '-' || (!inFlow && (c == '?' || c == ':'))))

/-- Reads the next token, and with it the ends of the block collections that end in front of
it. -/
def step (s : TokenState) : Except Error TokenState := do
  -- a byte order mark is skipped at the start of the text only
  let s := skipToToken s.budget
    (if s.mark.index == 0 && s.cursor.head.toNat == 0xFEFF then
      { s with cursor := s.cursor.next } else s)
  let s ← s.dropStale
  let s := s.unwind (s.cursor.column + 1)
  let c := s.cursor.head
  let next := s.cursor.look 1
  let inFlow := s.flowDepth != 0
  -- behind the last character stands the null character, which no text contains
  if c.toNat == 0 then s.readEnd
  else if c == '%' && s.cursor.column == 0 then s.readDirective
  else if s.cursor.column == 0 && s.cursor.atMarker '-' then s.readMarker .documentStart
  else if s.cursor.column == 0 && s.cursor.atMarker '.' then s.readMarker .documentEnd
  else if c == '[' then s.readFlowStart .flowSequenceStart
  else if c == '\x7b' then s.readFlowStart .flowMappingStart
  else if c == ']' then s.readFlowEnd .flowSequenceEnd
  else if c == '\x7d' then s.readFlowEnd .flowMappingEnd
  else if c == ',' then s.readFlowEntry
  else if c == '-' && isBlankOrEnd next then s.readBlockEntry
  else if c == '?' && (inFlow || isBlankOrEnd next) then s.readKey
  else if c == ':' && (inFlow || isBlankOrEnd next) then s.readValue
  else if c == '*' || c == '&' then s.readKeyable Name.anchor
  else if c == '!' then s.readKeyable (Name.tag s.budget)
  else if c == '|' && !inFlow then s.readBlockScalar false
  else if c == '>' && !inFlow then s.readBlockScalar true
  else if c == '\'' then s.readKeyable (ScalarText.quoted s.budget false)
  else if c == '\x22' then s.readKeyable (ScalarText.quoted s.budget true)
  else if startsPlain inFlow c next then s.readPlain
  else throw (.complaint ⟨some "while scanning for the next token", none,
    "found character " ++ shown c ++ " that cannot start any token", s.mark⟩)

/-- Whether more has to be read before the first token can be given out: there is none, or a key
may still have to be put in front of it. -/
def needsMore (s : TokenState) : Bool :=
  !s.done && (s.pending.isEmpty || s.keyStarts.any fun e => e.2.tokenNumber == s.taken)

/-- Gives out tokens until the end of the text or an error. `acc` holds those given out, latest
first. -/
def run : Nat → List Token → TokenState → List Token × Option Error
  | 0, acc, _ => (acc.reverse, none)
  | budget + 1, acc, s =>
    -- the places where keys may have started are looked at once a token is there to be given out
    match if s.done || s.pending.isEmpty then .ok s else s.dropStale with
    | .error e => (acc.reverse, some e)
    | .ok s =>
      if s.needsMore then
        match s.step with
        | .error e => (acc.reverse, some e)
        | .ok s => run budget acc s
      else match s.pending with
        | [] => (acc.reverse, none)
        | t :: ts => run budget (t :: acc) { s with pending := ts, taken := s.taken + 1 }

end TokenState

/-- The tokens of a text, up to the first error. -/
def Token.ofText (text : List Char) : List Token × Option Error :=
  TokenState.run (8 * text.length + 32) [] (TokenState.initial text)

end AgentPackage.Yaml
