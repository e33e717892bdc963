/-!
# Blank characters

The characters that separate words and that trimming removes: the ASCII blanks, the four
information separators U+001C to U+001F, NEL, the no-break space and the other space
characters of Unicode. Trimming removes blanks at both ends of a text and nothing inside it.
-/

namespace AgentPackage.Text

/-- Whether `c` is a blank: a tab, a line or page break, an information separator, or one of
the space characters of Unicode. -/
def isBlank (c : Char) : Bool :=
  let n := c.toNat
  (0x09 ≤ n && n ≤ 0x0D) || (0x1C ≤ n && n ≤ 0x20) || n == 0x85 || n == 0xA0 || n == 0x1680 ||
    (0x2000 ≤ n && n ≤ 0x200A) || n == 0x2028 || n == 0x2029 || n == 0x202F || n == 0x205F ||
    n == 0x3000

/-- `cs` without the blanks at its start. -/
def trimLeft (cs : List Char) : List Char :=
  cs.dropWhile isBlank

/-- `cs` without the blanks at its end. -/
def trimRight (cs : List Char) : List Char :=
  (cs.reverse.dropWhile isBlank).reverse

/-- `cs` without the blanks at its two ends. -/
def trimChars (cs : List Char) : List Char :=
  trimRight (trimLeft cs)

/-- `s` without the blanks at its two ends. -/
def trim (s : String) : String :=
  String.ofList (trimChars s.toList)

/-- Whether `s` holds nothing but blanks. -/
def isAllBlank (s : String) : Bool :=
  s.toList.all isBlank

/-- The maximal runs of characters of `cs` that satisfy `p`, in order. `word` is the run that
is being read, latest character first. -/
def runs (p : Char → Bool) : List Char → List Char → List (List Char)
  | [], [] => []
  | word, [] => [word.reverse]
  | word, c :: cs =>
    if p c then runs p (c :: word) cs
    else if word.isEmpty then runs p [] cs
    else word.reverse :: runs p [] cs

/-- The words of `s`: its maximal runs without a blank. -/
def words (s : String) : List String :=
  (runs (fun c => !isBlank c) [] s.toList).map String.ofList

/-- `s` with every run of blanks made one space and the blanks at its ends removed. -/
def collapseBlanks (s : String) : String :=
  " ".intercalate (words s)

/-- `cs` with every maximal run of blanks replaced by the one character `sep`. `inRun` says
whether the character before `cs` was a blank. -/
def replaceBlankRuns (sep : Char) : Bool → List Char → List Char
  | _, [] => []
  | inRun, c :: cs =>
    if isBlank c then
      if inRun then replaceBlankRuns sep true cs else sep :: replaceBlankRuns sep true cs
    else c :: replaceBlankRuns sep false cs

end AgentPackage.Text
