import AgentPackage.Value.Fault

/-!
# Places in a YAML text and errors

A mark is a place in a YAML text. An error of the text names what was being read, where that
began, what was found, and where; each place is shown with a part of its line and a caret under
the character.
-/

namespace AgentPackage.Yaml

/-- A place in a text: the number of characters before it, the number of lines before its line
and the number of columns before it in its line. -/
structure Mark where
  /-- The number of characters before the place. -/
  index : Nat
  /-- The number of lines before its line. -/
  line : Nat
  /-- The number of columns before it in its line. -/
  column : Nat
  deriving DecidableEq, Repr, Inhabited

/-- What is wrong with a text, and where. -/
structure Complaint where
  /-- What was being read. -/
  context : Option String
  /-- Where that began. -/
  contextMark : Option Mark
  /-- What was found. -/
  problem : String
  /-- Where it was found. -/
  mark : Mark
  deriving Repr

/-- Why a YAML text has no value. -/
inductive Error where
  /-- A character that may not stand in a text. -/
  | unacceptable (code position : Nat)
  /-- The text breaks a rule. -/
  | complaint (c : Complaint)
  /-- A scalar of the text denotes no value. -/
  | scalar (fault : ScalarFault)
  deriving Repr

/-- An error without a context. -/
def Error.plain (problem : String) (mark : Mark) : Error :=
  .complaint ⟨none, none, problem, mark⟩

/-- An error inside something that began at `start`. -/
def Error.within (context : String) (start : Mark) (problem : String) (mark : Mark) : Error :=
  .complaint ⟨some context, some start, problem, mark⟩

/-- Whether `c` is a line break. -/
def isBreak (c : Char) : Bool :=
  let n := c.toNat
  n == 0x0A || n == 0x0D || n == 0x85 || n == 0x2028 || n == 0x2029

/-- How many characters of a line are shown on one side of a place before the line is cut. -/
def snippetReach : Nat := 37

/-- The marker of a cut line. -/
def ellipsis : List Char := " ... ".toList

/-- The part of a line on one side of a place, nearest character first: up to the line break, or
cut so that the marker takes the place of its last five characters. -/
def snippetSide (side : List Char) : List Char × Bool :=
  let line := side.takeWhile fun c => !isBreak c && c.toNat != 0
  if line.length < snippetReach then (line, false) else (line.take (snippetReach - 5), true)

/-- The line of the character at `index`, cut on both sides, and a line with a caret under the
character. -/
def snippet (text : List Char) (index : Nat) : String :=
  let (before, cutBefore) := snippetSide (text.take index).reverse
  let (after, cutAfter) := snippetSide (text.drop index)
  let head := if cutBefore then ellipsis else []
  let tail := if cutAfter then ellipsis else []
  let column := 4 + before.length + head.length
  String.ofList (List.replicate 4 ' ' ++ head ++ before.reverse ++ after ++ tail ++ '\n' ::
    List.replicate column ' ' ++ ['^'])

/-- The wording of a place. -/
def Mark.message (text : List Char) (m : Mark) : String :=
  "  in \x22<unicode string>\x22, line " ++ toString (m.line + 1) ++ ", column " ++
    toString (m.column + 1) ++ ":\n" ++ snippet text m.index

/-- The wording of a complaint about a text. The place of the context is left out when it is
the place of the problem. -/
def Complaint.message (text : List Char) (c : Complaint) : String :=
  let contextPlace := match c.contextMark with
    | some m =>
      if m.line != c.mark.line || m.column != c.mark.column then [m.message text] else []
    | none => []
  "\n".intercalate (c.context.toList ++ contextPlace ++ [c.problem, c.mark.message text])

/-- At least four lower-case hexadecimal digits of `n`. -/
def hexCode (n : Nat) : String :=
  String.ofList (if n < 0x10000 then Text.hexDigits 4 n else Nat.toDigits 16 n)

/-- The wording of an error of a text. -/
def Error.message (text : List Char) : Error → String
  | .unacceptable code position =>
    "unacceptable character #x" ++ hexCode code ++
      ": special characters are not allowed\n  in \x22<unicode string>\x22, position " ++
      toString position
  | .complaint c => c.message text
  | .scalar fault => fault.message

end AgentPackage.Yaml
