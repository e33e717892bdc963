import AgentPackage.Yaml.Mark

/-!
# Moving through a YAML text

A cursor is a place in a text together with the characters that are left. Looking beyond the
end of the text shows the NUL character, which no text holds.
-/

namespace AgentPackage.Yaml

/-- A place in a text with the characters that are left. -/
structure Cursor where
  /-- The characters that are left. -/
  rest : List Char
  /-- The place of the first of them. -/
  mark : Mark
  deriving Inhabited

/-- Whether `c` is a line break or the end of the text. -/
def isBreakOrEnd (c : Char) : Bool :=
  c.toNat == 0 || isBreak c

/-- Whether `c` is a space, a line break or the end of the text. -/
def isSpaceOrEnd (c : Char) : Bool :=
  c == ' ' || isBreakOrEnd c

/-- Whether `c` is a space, a tab, a line break or the end of the text. -/
def isBlankOrEnd (c : Char) : Bool :=
  c == '\t' || isSpaceOrEnd c

/-- Whether `c` is a space or a tab. -/
def isSpaceOrTab (c : Char) : Bool :=
  c == ' ' || c == '\t'

/-- Whether `c` may stand in the name of an anchor, an alias, a directive or a tag handle. -/
def isWordChar (c : Char) : Bool :=
  ('0' ≤ c && c ≤ '9') || ('A' ≤ c && c ≤ 'Z') || ('a' ≤ c && c ≤ 'z') || c == '-' || c == '_'

/-- Whether `c` is a decimal digit. -/
def isDigit (c : Char) : Bool :=
  '0' ≤ c && c ≤ '9'

/-- The value of a hexadecimal digit. -/
def hexValue? (c : Char) : Option Nat :=
  if '0' ≤ c && c ≤ '9' then some (c.toNat - '0'.toNat)
  else if 'a' ≤ c && c ≤ 'f' then some (c.toNat - 'a'.toNat + 10)
  else if 'A' ≤ c && c ≤ 'F' then some (c.toNat - 'A'.toNat + 10)
  else none

/-- The number that hexadecimal digits denote. -/
def hexNumber (ds : List Char) : Nat :=
  ds.foldl (fun n d => n * 16 + (hexValue? d).getD 0) 0

/-- The place behind the character `c` at `m`, `next` being the character after it. A carriage
return counts as a line break unless a line feed follows it, and a byte order mark takes no
column. -/
def Mark.past (m : Mark) (c next : Char) : Mark :=
  let n := c.toNat
  if n == 0x0A || n == 0x85 || n == 0x2028 || n == 0x2029 || (n == 0x0D && next != '\n') then
    ⟨m.index + 1, m.line + 1, 0⟩
  else if n != 0xFEFF then ⟨m.index + 1, m.line, m.column + 1⟩
  else ⟨m.index + 1, m.line, m.column⟩

namespace Cursor

/-- The first character that is left. -/
def head (c : Cursor) : Char :=
  c.rest.headD '\x00'

/-- The character `n` places ahead. -/
def look (c : Cursor) (n : Nat) : Char :=
  (c.rest[n]?).getD '\x00'

/-- The place of the cursor in its line. -/
def column (c : Cursor) : Nat :=
  c.mark.column

/-- The cursor behind the next character. -/
def next (c : Cursor) : Cursor :=
  match c.rest with
  | [] => c
  | d :: ds => ⟨ds, c.mark.past d (ds.headD '\x00')⟩

/-- The cursor behind the next `n` characters. -/
def advance (c : Cursor) : Nat → Cursor
  | 0 => c
  | n + 1 => c.next.advance n

/-- Moves from `m` behind the characters of `cs` that satisfy `p`; `acc` holds those that were
passed, latest first. -/
def spanFrom (p : Char → Bool) (acc : List Char) (m : Mark) : List Char → List Char × Cursor
  | [] => (acc.reverse, ⟨[], m⟩)
  | d :: ds =>
    if p d then spanFrom p (d :: acc) (m.past d (ds.headD '\x00')) ds
    else (acc.reverse, ⟨d :: ds, m⟩)

/-- The characters at the cursor that satisfy `p`, and the cursor behind them. -/
def span (p : Char → Bool) (c : Cursor) : List Char × Cursor :=
  spanFrom p [] c.mark c.rest

/-- The cursor behind the characters that satisfy `p`. -/
def skip (p : Char → Bool) (c : Cursor) : Cursor :=
  (c.span p).2

/-- The cursor behind the spaces that stand there. -/
def skipSpaces (c : Cursor) : Cursor :=
  c.skip (· == ' ')

/-- The cursor behind a comment, if one starts there. -/
def skipComment (c : Cursor) : Cursor :=
  if c.head == '#' then c.skip fun d => !isBreakOrEnd d else c

/-- The cursor behind at most `n` spaces. -/
def skipIndent (c : Cursor) : Nat → Cursor
  | 0 => c
  | n + 1 => if c.head == ' ' then c.next.skipIndent n else c

/-- Reads a line break, if one stands at the cursor, as the characters it contributes to a text:
a line feed, or the line or paragraph separator itself. -/
def lineBreak (c : Cursor) : List Char × Cursor :=
  match c.rest with
  | '\r' :: '\n' :: _ => (['\n'], c.advance 2)
  | d :: _ =>
    if d.toNat == 0x2028 || d.toNat == 0x2029 then ([d], c.next)
    else if isBreak d then (['\n'], c.next)
    else ([], c)
  | [] => ([], c)

/-- Whether a mark of a document's start or end stands at the cursor: three equal characters
`d` with a blank after them. -/
def atMarker (c : Cursor) (d : Char) : Bool :=
  c.look 0 == d && c.look 1 == d && c.look 2 == d && isBlankOrEnd (c.look 3)

/-- Whether a mark of a document's start or end stands at the cursor. -/
def atDocumentMarker (c : Cursor) : Bool :=
  c.atMarker '-' || c.atMarker '.'

end Cursor

/-- A character in the form in which messages show it. -/
def shown (c : Char) : String :=
  Text.quoted (String.singleton c)

end AgentPackage.Yaml
