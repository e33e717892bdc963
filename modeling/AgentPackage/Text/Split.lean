/-!
# Splitting text

The parts of a text between the characters that separate them.
-/

namespace AgentPackage.Text

/-- The parts of `cs` between the characters that satisfy `p`. `part` is the part being read,
latest character first. -/
def splitFrom (p : Char → Bool) (part : List Char) : List Char → List (List Char)
  | [] => [part.reverse]
  | c :: cs => if p c then part.reverse :: splitFrom p [] cs else splitFrom p (c :: part) cs

/-- The parts of `cs` between the characters that satisfy `p`; there is one more of them than of
those characters. -/
def split (p : Char → Bool) (cs : List Char) : List (List Char) :=
  splitFrom p [] cs

end AgentPackage.Text
