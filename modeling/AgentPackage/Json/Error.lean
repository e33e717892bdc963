import AgentPackage.Value.Fault

/-!
# Errors of JSON text

What can be wrong with a JSON text, at which character, and how it is worded. Places are shown
as a line and a column, both counted from one, and the offset of the character.
-/

namespace AgentPackage.Json

/-- What a JSON text lacks or has too much of at some place. -/
inductive Problem where
  /-- No value starts here. -/
  | expectingValue
  /-- No quoted name of an entry starts here. -/
  | expectingName
  /-- The colon after a name is missing. -/
  | expectingColon
  /-- The comma after an element or entry is missing. -/
  | expectingComma
  /-- The string that starts here has no end. -/
  | unterminatedString
  /-- A control character stands in a string. -/
  | controlCharacter
  /-- No such escape exists. -/
  | unknownEscape
  /-- The four hexadecimal digits of an escape are missing. -/
  | incompleteEscape
  /-- Something follows the value. -/
  | extraData
  /-- The text starts with a byte order mark. -/
  | byteOrderMark
  deriving DecidableEq, Repr

/-- The wording of a problem. -/
def Problem.message : Problem → String
  | .expectingValue => "Expecting value"
  | .expectingName => "Expecting property name enclosed in double quotes"
  | .expectingColon => "Expecting ':' delimiter"
  | .expectingComma => "Expecting ',' delimiter"
  | .unterminatedString => "Unterminated string starting at"
  | .controlCharacter => "Invalid control character at"
  | .unknownEscape => "Invalid \\escape"
  | .incompleteEscape => "Invalid \\uXXXX escape"
  | .extraData => "Extra data"
  | .byteOrderMark => "Unexpected UTF-8 BOM (decode using utf-8-sig)"

/-- Why a JSON text has no value. -/
inductive Error where
  /-- The text is no JSON. -/
  | malformed (problem : Problem) (offset : Nat)
  /-- A number of the text cannot be converted, or the text is nested too deep to be read. -/
  | scalar (fault : ScalarFault)
  deriving Repr

/-- The line and the column, counted from one, of the character of `text` at `offset`. -/
def place (text : List Char) (offset : Nat) : Nat × Nat :=
  let before := text.take offset
  (before.count '\n' + 1, (before.reverse.takeWhile (· != '\n')).length + 1)

/-- The wording of a problem of `text` at `offset`. -/
def Problem.describe (p : Problem) (text : List Char) (offset : Nat) : String :=
  let (line, column) := place text offset
  p.message ++ ": line " ++ toString line ++ " column " ++ toString column ++
    " (char " ++ toString offset ++ ")"

end AgentPackage.Json
