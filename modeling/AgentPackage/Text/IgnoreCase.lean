/-!
# Ignoring case

Comparison of text with words in lower-case ASCII letters, case being ignored. Besides the two
forms of ASCII a letter may be written as a character of Unicode that has it as its lower-case or
upper-case form.
-/

namespace AgentPackage.Text

/-- Whether `c` is the lower-case letter `letter` when case is ignored. Besides the two forms of
ASCII these are the long s, the Kelvin sign, and the i without a dot and the I with one. -/
def sameLetter (letter c : Char) : Bool :=
  c.toLower == letter || (letter == 's' && c.toNat == 0x17F) ||
    (letter == 'k' && c.toNat == 0x212A) ||
    (letter == 'i' && (c.toNat == 0x130 || c.toNat == 0x131))

/-- The characters behind `word` at the start of `cs`, case being ignored. -/
def dropWord? : List Char → List Char → Option (List Char)
  | [], cs => some cs
  | _ :: _, [] => none
  | l :: ls, c :: cs => if sameLetter l c then dropWord? ls cs else none

/-- Whether `word` occurs in `cs`, case being ignored. -/
def occursIgnoringCase (word : List Char) : List Char → Bool
  | [] => word.isEmpty
  | c :: cs => (dropWord? word (c :: cs)).isSome || occursIgnoringCase word cs

end AgentPackage.Text
