/-!
# Lines

Line breaks of text files. A line ends at a line feed, together with the carriage return right
before it, if any; reading a file as text first makes every kind of line break a line feed.
-/

namespace AgentPackage.Text

/-- `cs` with every carriage return, and every carriage return and line feed, made one line
feed. -/
def normalizeBreaks : List Char → List Char
  | [] => []
  | '\r' :: '\n' :: cs => '\n' :: normalizeBreaks cs
  | '\r' :: cs => '\n' :: normalizeBreaks cs
  | c :: cs => c :: normalizeBreaks cs

/-- The lines of `cs`, without their breaks; a text without a break is one line. `line` holds
the characters of the line being read, latest first. -/
def linesFrom (line : List Char) : List Char → List (List Char)
  | [] => [line.reverse]
  | '\r' :: '\n' :: cs => line.reverse :: linesFrom [] cs
  | '\n' :: cs => line.reverse :: linesFrom [] cs
  | c :: cs => linesFrom (c :: line) cs

/-- The lines of a text. -/
def lines (cs : List Char) : List (List Char) :=
  linesFrom [] cs

/-- Whether `needle` occurs in `cs`. -/
def occursIn (needle : List Char) : List Char → Bool
  | [] => needle.isEmpty
  | c :: cs => needle.isPrefixOf (c :: cs) || occursIn needle cs

/-- The number, counted from `number`, of the first of `ls` that satisfies `p`. -/
def firstLineFrom (p : List Char → Bool) (number : Nat) : List (List Char) → Option Nat
  | [] => none
  | l :: ls => if p l then some number else firstLineFrom p (number + 1) ls

/-- The number, counted from one, of the first line of `cs` that satisfies `p`. -/
def firstLine (p : List Char → Bool) (cs : List Char) : Option Nat :=
  firstLineFrom p 1 (lines cs)

/-- A text has at least one line. -/
theorem lines_ne_nil (cs : List Char) : lines cs ≠ [] := by
  unfold lines
  generalize ([] : List Char) = line
  fun_induction linesFrom line cs <;> simp_all

end AgentPackage.Text
