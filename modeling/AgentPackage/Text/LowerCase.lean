import AgentPackage.Text.LowerCase.Table

/-!
# Lower-casing

Full lower-casing of text: each character goes to its lower-case form, a capital I with a dot
above to an i followed by a combining dot, and a capital sigma to the final form at the end of
a word and to the ordinary form elsewhere.
-/

namespace AgentPackage.Text

namespace LowerCase

/-- Whether the run holds code point `n`. -/
def CaseRun.holds (r : CaseRun) (n : Nat) : Bool :=
  r.first ≤ n && n ≤ r.last && (n - r.first) % r.step == 0

/-- The lower-case form of a character that does not depend on its neighbours. -/
def lowerChar (c : Char) : List Char :=
  if c.toNat < 0x80 then [c.toLower]
  else if c.toNat == 0x130 then ['i', Char.ofNat 0x307]
  else match caseRuns.find? (·.holds c.toNat) with
    | some r => [Char.ofNat (c.toNat + r.shift).toNat]
    | none => [c]

/-- Whether the first character of `cs` that casing does not look through is a cased letter. -/
def nextIsCased (cs : List Char) : Bool :=
  match cs.dropWhile caseIgnorable.contains with
  | [] => false
  | c :: _ => cased.contains c

/-- The lower-case form of a capital sigma: final when a cased letter stands before it and none
after it. `before` holds the characters before it, latest first. -/
def lowerSigma (before after : List Char) : Char :=
  if nextIsCased before && !nextIsCased after then Char.ofNat 0x3C2 else Char.ofNat 0x3C3

/-- Lower-cases `cs`, which follows the characters of `before`, latest first. -/
def lowerFrom (before : List Char) : List Char → List Char
  | [] => []
  | c :: cs =>
    let form := if c.toNat == 0x3A3 then [lowerSigma before cs] else lowerChar c
    form ++ lowerFrom (c :: before) cs

end LowerCase

/-- The lower-case form of `s`. -/
def lower (s : String) : String :=
  String.ofList (LowerCase.lowerFrom [] s.toList)

end AgentPackage.Text
