import AgentPackage.Value.Numeral

/-!
# Constants

The arguments that a tag hands to its handler are written as constants: numbers, strings, truth
values, and rows, sets and dictionaries of them. Only whether they are written rightly matters. They
are read as tokens first; line breaks count for nothing inside brackets, and end the constant outside
of them.
-/

namespace AgentPackage.Terminal.Constant

/-- A token of a constant. -/
inductive Token where
  /-- A number; `isLarge` is set for an integer that no floating-point number is near to. -/
  | number (isImaginary isLarge : Bool)
  /-- A string, of characters or of bytes. -/
  | string (isBytes : Bool)
  /-- The word for a truth value or for the absent value, or the three dots. -/
  | word
  /-- The word for a set. -/
  | setWord
  /-- An opening bracket. -/
  | opening (c : Char)
  /-- A closing bracket. -/
  | closing (c : Char)
  /-- A comma, a colon, a plus or a minus. -/
  | mark (c : Char)
  /-- A line break outside brackets. -/
  | lineBreak
  deriving DecidableEq, Repr

/-! ## Numbers -/

/-- Whether `c` may start a name. -/
def startsName (c : Char) : Bool :=
  c.isAlpha || c == '_' || 0x80 ≤ c.toNat

/-- Whether `c` may stand in a name. -/
def isInName (c : Char) : Bool :=
  startsName c || c.isDigit

/-- The digits at the start of `cs`, which stands behind a digit, without the single underscores
between them, and what stands behind them. -/
def digitsBehind (isDigit : Char → Bool) : List Char → List Char × List Char
  | '_' :: d :: cs =>
    if isDigit d then
      let (ds, rest) := digitsBehind isDigit cs
      (d :: ds, rest)
    else ([], '_' :: d :: cs)
  | c :: cs =>
    if isDigit c then
      let (ds, rest) := digitsBehind isDigit cs
      (c :: ds, rest)
    else ([], c :: cs)
  | [] => ([], [])

/-- The digits at the start of `cs`, without the single underscores between them, and what stands
behind them. -/
def digitsAt (isDigit : Char → Bool) (cs : List Char) : List Char × List Char :=
  if cs.head? == some '_' then ([], cs) else digitsBehind isDigit cs

/-- Whether an integer is so large that no floating-point number is near to it. -/
def isLarge (n : Nat) : Bool :=
  (Decimal.floatOfDecimal n 0).isInf

/-- The integer to a base that stands at the start of `cs`, behind the mark of the base, and what
stands behind it. An underscore may come first. -/
def markedInteger? (base : Nat) (cs : List Char) : Option (Nat × List Char) :=
  let cs := match cs with
    | '_' :: cs => cs
    | cs => cs
  let (ds, rest) := digitsAt (fun c => (Numeral.digit? base c).isSome) cs
  if ds.isEmpty then none
  else some (ds.foldl (fun n d => n * base + (Numeral.digit? base d).getD 0) 0, rest)

/-- What stands behind the exponent at the start of `cs`, if there is one. -/
def dropExponent? (cs : List Char) : Option (List Char) :=
  match cs with
  | e :: cs =>
    if e == 'e' || e == 'E' then
      let cs := match cs with
        | '+' :: cs => cs
        | '-' :: cs => cs
        | cs => cs
      let (ds, rest) := digitsAt Char.isDigit cs
      if ds.isEmpty then none else some rest
    else none
  | [] => none

/-- The decimal number at the start of `cs`, and what stands behind it. -/
def decimal? (cs : List Char) : Option (Token × List Char) :=
  let (whole, rest) := digitsAt Char.isDigit cs
  let (fraction?, rest) := match rest with
    | '.' :: rest =>
      let (fraction, rest) := digitsAt Char.isDigit rest
      (some fraction, rest)
    | _ => (none, rest)
  if whole.isEmpty && (fraction?.getD []).isEmpty then none
  else
    let (hasExponent, rest) := match dropExponent? rest with
      | some rest => (true, rest)
      | none => (false, rest)
    match rest with
    | 'j' :: rest | 'J' :: rest => some (.number true false, rest)
    | _ =>
      if fraction?.isSome || hasExponent then some (.number false false, rest)
      -- an integer may start with a zero only if it is zero
      else if whole.head? == some '0' && whole.any (· != '0') then none
      else if integerDigitLimit < whole.length then none
      else some (.number false (isLarge (Decimal.natOfDigits whole)), rest)

/-- The number at the start of `cs`, and what stands behind it, which may not go on like a name. -/
def number? (cs : List Char) : Option (Token × List Char) := do
  let marked (base : Nat) (cs : List Char) : Option (Token × List Char) :=
    (markedInteger? base cs).map fun (n, rest) => (.number false (isLarge n), rest)
  let (token, rest) ← match cs with
    | '0' :: 'x' :: cs | '0' :: 'X' :: cs => marked 16 cs
    | '0' :: 'o' :: cs | '0' :: 'O' :: cs => marked 8 cs
    | '0' :: 'b' :: cs | '0' :: 'B' :: cs => marked 2 cs
    | cs => decimal? cs
  match rest with
  | c :: _ => if isInName c then none else return (token, rest)
  | [] => return (token, rest)

/-! ## Strings -/

/-- How the characters of a string are written. -/
structure Quotation where
  /-- Whether it holds bytes. -/
  isBytes : Bool
  /-- Whether a backslash stands for itself. -/
  isRaw : Bool
  /-- The quotation mark. -/
  quote : Char
  /-- Whether the mark stands three times at each end. -/
  isTriple : Bool

/-- Whether `n` hexadecimal digits stand at the start of `cs`. -/
def startsWithHex (n : Nat) (cs : List Char) : Bool :=
  (cs.take n).length == n && (cs.take n).all fun c => (Numeral.digit? 16 c).isSome

/-- The value of the hexadecimal digits at the start of `cs`. -/
def hexValue (n : Nat) (cs : List Char) : Nat :=
  (cs.take n).foldl (fun v c => v * 16 + (Numeral.digit? 16 c).getD 0) 0

/-- The greatest code of a character. -/
def greatestCode : Nat := 0x10FFFF

/-- Whether the escape of which `cs` is what stands behind the backslash is allowed. -/
def isEscape (q : Quotation) : List Char → Bool
  | 'x' :: cs => startsWithHex 2 cs
  | 'u' :: cs => q.isBytes || startsWithHex 4 cs
  | 'U' :: cs => q.isBytes || (startsWithHex 8 cs && hexValue 8 cs ≤ greatestCode)
  | 'N' :: cs =>
    q.isBytes ||
      match cs with
      | '{' :: cs =>
        let name := cs.takeWhile (· != '}')
        !name.isEmpty && name.length < cs.length
      | _ => false
  | _ => true

/-- What stands behind the end of a string, `cs` being what stands behind its start. -/
def dropString? (q : Quotation) : List Char → Option (List Char)
  | [] => none
  | '\\' :: cs =>
    if !q.isRaw && !isEscape q cs then none
    else
      match cs with
      | [] => none
      | c :: cs => if q.isBytes && 0x80 ≤ c.toNat then none else dropString? q cs
  | c :: cs =>
    if c == q.quote then
      if !q.isTriple then some cs
      else if [q.quote, q.quote].isPrefixOf cs then some (cs.drop 2)
      else dropString? q cs
    else if c == '\n' && !q.isTriple then none
    else if q.isBytes && 0x80 ≤ c.toNat then none
    else dropString? q cs

/-- The letters that may stand before a string, in lower case, with what they say: whether it holds
bytes, and whether a backslash stands for itself. -/
def stringLetters : List (String × Bool × Bool) :=
  [("", false, false), ("u", false, false), ("r", false, true), ("b", true, false),
    ("br", true, true), ("rb", true, true)]

/-- The string at the start of `cs` behind the letters `letters`, and what stands behind it. -/
def string? (letters : List Char) (cs : List Char) : Option (Token × List Char) := do
  let (isBytes, isRaw) ← stringLetters.lookup (String.ofList (letters.map Char.toLower))
  match cs with
  | quote :: cs =>
    if quote == '\x27' || quote == '"' then
      let isTriple := [quote, quote].isPrefixOf cs
      let q : Quotation := ⟨isBytes, isRaw, quote, isTriple⟩
      let rest ← dropString? q (if isTriple then cs.drop 2 else cs)
      return (.string isBytes, rest)
    else none
  | [] => none

/-! ## Tokens -/

/-- The token that a name is. -/
def wordOf? (name : List Char) : Option Token :=
  match String.ofList name with
  | "None" | "True" | "False" => some .word
  | "set" => some .setWord
  | _ => none

/-- The token at the start of `cs`, which is not blank, and what stands behind it. -/
def token? (cs : List Char) : Option (Token × List Char) :=
  match cs with
  | [] => none
  | '.' :: '.' :: '.' :: rest => some (.word, rest)
  | c :: rest =>
    if c == '(' || c == '{' then some (.opening c, rest)
    else if c == ')' || c == '}' then some (.closing c, rest)
    else if c == ',' || c == ':' || c == '+' || c == '-' then some (.mark c, rest)
    else if c.isDigit || c == '.' then number? cs
    else if c == '\x27' || c == '"' then string? [] cs
    else if startsName c then
      let name := cs.takeWhile isInName
      let behind := cs.dropWhile isInName
      match behind with
      | q :: _ =>
        if q == '\x27' || q == '"' then string? name behind
        else (wordOf? name).map fun t => (t, behind)
      | [] => (wordOf? name).map fun t => (t, behind)
    else none

/-- How deep brackets may stand in each other. -/
def depthLimit : Nat := 200

/-- The tokens of a text; `depth` is the number of brackets that are open and `isFirst` says that no
token stands before. The budget bounds the number of tokens and gaps. -/
def tokens? : Nat → Nat → Bool → List Char → Option (List Token)
  | 0, _, _, _ => none
  | _, _, _, [] => some []
  | budget + 1, depth, isFirst, c :: cs =>
    if c == ' ' || c == '\t' || c.toNat == 0x0C then tokens? budget depth isFirst cs
    else if c == '#' then tokens? budget depth isFirst (cs.dropWhile (· != '\n'))
    else if c == '\n' then
      if depth == 0 && !isFirst then
        (tokens? budget depth isFirst cs).map (Token.lineBreak :: ·)
      else tokens? budget depth isFirst cs
    else if c == '\\' then
      match cs with
      | '\n' :: d :: cs => tokens? budget depth isFirst (d :: cs)
      | _ => none
    else do
      let (token, rest) ← token? (c :: cs)
      let depth ← match token with
        | .opening _ => if depth < depthLimit then some (depth + 1) else none
        | .closing _ => if depth == 0 then none else some (depth - 1)
        | _ => some depth
      return token :: (← tokens? budget depth false rest)

/-! ## Structure -/

/-- What is known of a constant. -/
inductive Kind where
  /-- A number without a sign. -/
  | number (isImaginary isLarge : Bool)
  /-- A number with a sign. -/
  | signed (isImaginary isLarge : Bool)
  /-- Something else that can be a key. -/
  | key
  /-- Something that cannot be a key. -/
  | collection
  deriving DecidableEq, Repr

namespace Kind

/-- Whether a constant can be a key of a dictionary or an element of a set. -/
def isKey (k : Kind) : Bool :=
  k != .collection

/-- The sum or difference of two constants: a real and an imaginary number, without a sign. -/
def sum? : Kind → Kind → Option Kind
  | .number false false, .number true _ => some .key
  | .signed false false, .number true _ => some .key
  | _, _ => none

end Kind

/-- The strings at the start of `ts`, all of characters or all of bytes, are one string. What stands
behind them is returned. -/
def dropStrings? (isBytes : Bool) : List Token → Option (List Token)
  | .string b :: ts => if b == isBytes then dropStrings? isBytes ts else none
  | ts => some ts

mutual

/-- The constant at the start of `ts`, and what stands behind it. The budget bounds the depth. -/
def constant? : Nat → List Token → Option (Kind × List Token)
  | 0, _ => none
  | budget + 1, ts => do
    let (left, ts) ← match ts with
      | .mark '+' :: ts | .mark '-' :: ts => do
        match ← atom? budget ts with
        | (.number i l, ts) => some (Kind.signed i l, ts)
        | _ => none
      | ts => atom? budget ts
    match ts with
    | .mark '+' :: ts | .mark '-' :: ts => do
      let (right, ts) ← atom? budget ts
      return (← left.sum? right, ts)
    | ts => return (left, ts)

/-- The constant without a sign at the start of `ts`, and what stands behind it. -/
def atom? : Nat → List Token → Option (Kind × List Token)
  | 0, _ => none
  | budget + 1, ts =>
    match ts with
    | .number i l :: ts => some (.number i l, ts)
    | .string b :: ts => (dropStrings? b ts).map fun ts => (.key, ts)
    | .word :: ts => some (.key, ts)
    | .setWord :: .opening '(' :: .closing ')' :: ts => some (.collection, ts)
    | .opening '(' :: .closing ')' :: ts => some (.key, ts)
    | .opening '(' :: ts => do
      let (first, ts) ← constant? budget ts
      match ts with
      | .closing ')' :: ts => return (first, ts)
      | _ =>
        let (kinds, ts) ← row? budget ts
        match ts with
        | .closing ')' :: ts =>
          return (if (first :: kinds).all Kind.isKey then .key else .collection, ts)
        | _ => none
    | .opening '{' :: .closing '}' :: ts => some (.collection, ts)
    | .opening '{' :: ts => do
      let (first, ts) ← constant? budget ts
      if !first.isKey then none
      else match ts with
        | .mark ':' :: ts => do
          let (_, ts) ← constant? budget ts
          let ts ← entries? budget ts
          return (.collection, ts)
        | _ =>
          let (kinds, ts) ← row? budget ts
          match ts with
          | .closing '}' :: ts => if kinds.all Kind.isKey then some (.collection, ts) else none
          | _ => none
    | _ => none

/-- The constants behind commas at the start of `ts`, and what stands behind them; a comma may come
last. -/
def row? : Nat → List Token → Option (List Kind × List Token)
  | 0, _ => none
  | budget + 1, ts =>
    match ts with
    | .mark ',' :: ts =>
      match ts with
      | [] | .closing _ :: _ | .lineBreak :: _ => some ([], ts)
      | _ => do
        let (kind, ts) ← constant? budget ts
        let (kinds, ts) ← row? budget ts
        return (kind :: kinds, ts)
    | _ => some ([], ts)

/-- What stands behind the entries of a dictionary, `ts` being what stands behind one of them. -/
def entries? : Nat → List Token → Option (List Token)
  | 0, _ => none
  | budget + 1, ts =>
    match ts with
    | .closing '}' :: ts => some ts
    | .mark ',' :: .closing '}' :: ts => some ts
    | .mark ',' :: ts => do
      let (kind, ts) ← constant? budget ts
      match ts with
      | .mark ':' :: ts =>
        let (_, ts) ← constant? budget ts
        if kind.isKey then entries? budget ts else none
      | _ => none
    | _ => none

end

/-- A text with line feeds for all line breaks. -/
def withLineFeeds : List Char → List Char
  | '\r' :: '\n' :: cs => '\n' :: withLineFeeds cs
  | '\r' :: cs => '\n' :: withLineFeeds cs
  | c :: cs => c :: withLineFeeds cs
  | [] => []

/-- Whether a text is a constant, or a row of constants without brackets. -/
def isWritten (cs : List Char) : Bool :=
  let cs := withLineFeeds cs
  if cs.any fun c => c.toNat == 0 then false
  else
    let result := do
      let ts ← tokens? (cs.length + 1) 0 true cs
      -- each step down takes a token, or goes on to one that does
      let budget := 2 * ts.length + 2
      let (_, ts) ← constant? budget ts
      row? budget ts
    match result with
    | some (_, ts) => ts.all (· == .lineBreak)
    | none => false

end AgentPackage.Terminal.Constant
