import AgentPackage.Value.Basic
import AgentPackage.Text.Quoted

/-!
# Writing JSON

JSON text in ASCII: every character outside ASCII and every control character is written as an
escape, characters beyond the first plane as a pair of escapes. A text is written either on one
line or with one element to a line.
-/

namespace AgentPackage.Json

/-- What a JSON text is written from: values whose keys are strings, in the order in which they
are to be written. -/
inductive Tree where
  /-- A text that stands for itself, such as a number. -/
  | atom (text : String)
  /-- A string. -/
  | text (s : String)
  /-- An array. -/
  | array (xs : List Tree)
  /-- An object. -/
  | object (entries : List (String × Tree))
  deriving Inhabited

/-- The escape of one unit of sixteen bits. -/
def unitEscape (n : Nat) : List Char :=
  '\\' :: 'u' :: Text.hexDigits 4 n

/-- One character of a string. -/
def escape (c : Char) : List Char :=
  let n := c.toNat
  if c == '\x22' then ['\\', '\x22']
  else if c == '\\' then ['\\', '\\']
  else if c == '\n' then ['\\', 'n']
  else if c == '\r' then ['\\', 'r']
  else if c == '\t' then ['\\', 't']
  else if n == 0x08 then ['\\', 'b']
  else if n == 0x0C then ['\\', 'f']
  else if 0x20 ≤ n && n < 0x7F then [c]
  else if n == 0x7F then [c]
  else if n < 0x10000 then unitEscape n
  else unitEscape (0xD800 + (n - 0x10000) / 0x400) ++ unitEscape (0xDC00 + (n - 0x10000) % 0x400)

/-- A string in quotes. -/
def quote (s : String) : String :=
  String.ofList ('\x22' :: (s.toList.flatMap escape ++ ['\x22']))

namespace Tree

/-- The tree of an integer. -/
def int (i : Int) : Tree := .atom (toString i)

/-- The tree of a natural number. -/
def nat (n : Nat) : Tree := .atom (toString n)

/-- The tree of a truth value. -/
def bool (b : Bool) : Tree := .atom (if b then "true" else "false")

/-- The tree of the absent value. -/
def null : Tree := .atom "null"

/-- The tree of a value that may be absent. -/
def option {α : Type} (f : α → Tree) : Option α → Tree
  | none => null
  | some a => f a

mutual

/-- The text of a tree on one line. -/
def compact : Tree → String
  | .atom t => t
  | .text s => quote s
  | .array xs => "[" ++ ", ".intercalate (compactAll xs) ++ "]"
  | .object es => "\x7b" ++ ", ".intercalate (compactEntries es) ++ "\x7d"

/-- The texts of the elements of an array. -/
def compactAll : List Tree → List String
  | [] => []
  | x :: xs => compact x :: compactAll xs

/-- The texts of the entries of an object. -/
def compactEntries : List (String × Tree) → List String
  | [] => []
  | (k, x) :: es => (quote k ++ ": " ++ compact x) :: compactEntries es

end

/-- A break before a line that is indented by `depth` levels of two blanks. -/
def newline (depth : Nat) : String :=
  "\n" ++ String.ofList (List.replicate (2 * depth) ' ')

mutual

/-- The text of a tree with one element to a line, inside `depth` levels. -/
def indented (depth : Nat) : Tree → String
  | .atom t => t
  | .text s => quote s
  | .array [] => "[]"
  | .array (x :: xs) =>
    "[" ++ newline (depth + 1) ++
      ("," ++ newline (depth + 1)).intercalate (indentedAll (depth + 1) (x :: xs)) ++
      newline depth ++ "]"
  | .object [] => "\x7b\x7d"
  | .object (e :: es) =>
    "\x7b" ++ newline (depth + 1) ++
      ("," ++ newline (depth + 1)).intercalate (indentedEntries (depth + 1) (e :: es)) ++
      newline depth ++ "\x7d"

/-- The texts of the elements of an array. -/
def indentedAll (depth : Nat) : List Tree → List String
  | [] => []
  | x :: xs => indented depth x :: indentedAll depth xs

/-- The texts of the entries of an object. -/
def indentedEntries (depth : Nat) : List (String × Tree) → List String
  | [] => []
  | (k, x) :: es => (quote k ++ ": " ++ indented depth x) :: indentedEntries depth es

end

end Tree

end AgentPackage.Json
