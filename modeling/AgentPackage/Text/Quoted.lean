import AgentPackage.Text.Printable

/-!
# Quoted text

The quoted form of a text in messages: single quotes, or double quotes when the text holds a
single quote and no double quote; a backslash, the quote in use and the line and tab characters
are escaped by a backslash, other unprintable characters by their code.
-/

namespace AgentPackage.Text

/-- The last `count` hexadecimal digits of `n`, padded with zeros. -/
def hexDigits (count n : Nat) : List Char :=
  (List.range count).reverse.map fun i => Nat.digitChar (n / Nat.pow 16 i % 16)

/-- The escape of a character that is not shown as itself: two, four or eight digits, whichever
suffices first. -/
def escapeCode (c : Char) : List Char :=
  let n := c.toNat
  if n < 0x100 then '\\' :: 'x' :: hexDigits 2 n
  else if n < 0x10000 then '\\' :: 'u' :: hexDigits 4 n
  else '\\' :: 'U' :: hexDigits 8 n

/-- One character of a text quoted by `quote`. -/
def quoteChar (quote c : Char) : List Char :=
  if c == quote || c == '\\' then ['\\', c]
  else if c == '\n' then ['\\', 'n']
  else if c == '\r' then ['\\', 'r']
  else if c == '\t' then ['\\', 't']
  else if isPrintable c then [c]
  else escapeCode c

/-- The quotation mark used around `s`. -/
def quoteMark (s : String) : Char :=
  if s.toList.contains '\'' && !s.toList.contains '\x22' then '\x22' else '\''

/-- The quoted form of `s`. -/
def quoted (s : String) : String :=
  let q := quoteMark s
  String.ofList (q :: (s.toList.flatMap (quoteChar q) ++ [q]))

end AgentPackage.Text
