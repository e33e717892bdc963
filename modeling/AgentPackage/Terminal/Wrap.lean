import AgentPackage.Terminal.Styled
import AgentPackage.Text.Blank

/-!
# Wrapping

How text is fitted into lines of a given width. Tabs go to the next multiple of eight columns, and a
line that is too long is broken between words. A word that is too long for a line of its own is
broken too, or else cut.
-/

namespace AgentPackage.Terminal

/-- What becomes of a word that is longer than a line. -/
inductive Overflow where
  /-- It goes on in the next line. -/
  | fold
  /-- It is cut, with an ellipsis at the end. -/
  | ellipsis
  deriving DecidableEq, Repr

namespace Wrap

/-! ## Tabs -/

/-- How far apart tab stops are. -/
def tabSize : Nat := 8

/-- The parts of a line between tabs, with blanks for the tabs. `column` is that of the first part
and `index` the number of characters before it. Each tab is listed with its place and the number of
blanks beyond the one in its place. -/
def expandFrom (column index : Nat) : List (List Char) → List Char × List (Nat × Nat)
  | [] => ([], [])
  | [part] => (part, [])
  | part :: parts =>
    let used := column + Text.width (part ++ [' '])
    let more := (tabSize - used % tabSize) % tabSize
    let (cs, tabs) := expandFrom (used + more) (index + part.length + 1) parts
    (part ++ ' ' :: List.replicate more ' ' ++ cs, (index + part.length, more) :: tabs)

/-- Where a place in a line is when its tabs are expanded. -/
def moved (tabs : List (Nat × Nat)) (place : Nat) : Nat :=
  tabs.foldl (fun n tab => if tab.1 < place then n + tab.2 else n) place

/-- A line with blanks for its tabs. -/
def expandTabs (line : Styled) : Styled :=
  if line.chars.contains '\t' then
    let (cs, tabs) := expandFrom 0 0 (Text.split (· == '\t') line.chars)
    { chars := cs
      spans := (line.spans.filter fun p => p.start < p.stop).map fun p =>
        { p with start := moved tabs p.start, stop := moved tabs p.stop } }
  else line

/-! ## Words -/

/-- The words of a line, each with the blanks behind it, the first with those before it too. A
line of blanks has no word. `word` holds the word being read, latest character first, `hasInk` says
whether a character of it is no blank, and `hasGap` whether blanks follow that. -/
def wordsFrom (word : List Char) (hasInk hasGap : Bool) : List Char → List (List Char)
  | [] => if hasInk then [word.reverse] else []
  | c :: cs =>
    if Text.isBlank c then wordsFrom (c :: word) hasInk hasInk cs
    else if hasGap then word.reverse :: wordsFrom [c] true false cs
    else wordsFrom (c :: word) true false cs

/-- The words of a line, each with the blanks around it that belong to it. -/
def words (line : List Char) : List (List Char) :=
  wordsFrom [] false false line

/-! ## Breaks -/

/-- The breaking of a line, word by word. -/
structure Breaking where
  /-- The places before which the line is broken, the last one first. -/
  breaks : List Nat := []
  /-- How many characters stand before the next word. -/
  place : Nat := 0
  /-- How many columns of the last line count as used. -/
  used : Nat := 0

namespace Breaking

/-- Breaks the line before a place, except before its first character, and goes on with a line of
which so many columns are used. -/
def breakAt (b : Breaking) (place used : Nat) : Breaking :=
  { b with
    breaks := if place == 0 then b.breaks else place :: b.breaks
    used }

/-- Breaks the line before each of the pieces into which a word is cut, the first of which begins at
`place`. -/
def fold (b : Breaking) (place : Nat) (word : List Char) : List Nat → Breaking
  | [] => b
  | n :: ns =>
    let used := if ns.isEmpty then Text.width (word.take n) else b.used
    fold (b.breakAt place used) (place + n) (word.drop n) ns

/-- Puts a word into the line, or into the next one. -/
def add (overflow : Overflow) (columns : Nat) (b : Breaking) (word : List Char) : Breaking :=
  -- the blanks behind a word may stand beyond the end of the line
  let ink := Text.width (Text.trimRight word)
  let b' :=
    if b.used + ink ≤ columns then { b with used := b.used + Text.width word }
    else if columns < ink then
      match overflow with
      | .fold =>
        b.fold b.place word (Text.Cluster.pieceLengths columns 0 0 (Text.Cluster.ofChars word))
      | .ellipsis => b.breakAt b.place (Text.width word)
    else if b.used != 0 then b.breakAt b.place (Text.width word)
    else b
  { b' with place := b.place + word.length }

end Breaking

/-- The places before which a line is broken. -/
def breaks (overflow : Overflow) (columns : Nat) (line : List Char) : List Nat :=
  ((words line).foldl (Breaking.add overflow columns) {}).breaks.reverse

/-! ## Lines -/

/-- A line without the blanks at its end that stand beyond so many characters. -/
def trimBeyond (columns : Nat) (line : Styled) : Styled :=
  let cs := line.chars
  let blanks := (cs.reverse.takeWhile Text.isBlank).length
  let excess := min blanks (cs.length - columns)
  if excess == 0 then line else line.withChars (cs.take (cs.length - excess))

/-- A line that is cut where it is wider than the columns there are, and filled up with blanks where
it is not as wide, if it is to be. -/
def truncated (overflow : Overflow) (fill : Bool) (columns : Nat) (line : Styled) : Styled :=
  let used := line.width
  if columns < used then
    line.withChars <| match overflow with
      | .fold => Text.resized columns line.chars
      | .ellipsis => Text.resized (columns - 1) line.chars ++ ['…']
  else if fill then { line with chars := line.chars ++ List.replicate (columns - used) ' ' }
  else line

/-- The lines into which one line is broken. -/
def breakLine (overflow : Overflow) (fill : Bool) (columns : Nat) (line : Styled) :
    List Styled :=
  (line.divide (breaks overflow columns line.chars)).map fun l =>
    truncated overflow false columns (truncated overflow fill columns (trimBeyond columns l))

/-- The lines of a text before wrapping. -/
def plainLines (s : Styled) : List Styled :=
  s.lines.map expandTabs

/-- The lines of a text, broken so that none is wider than so many columns. -/
def lines (overflow : Overflow) (fill : Bool) (columns : Nat) (s : Styled) : List Styled :=
  (plainLines s).flatMap (breakLine overflow fill columns)

end Wrap

end AgentPackage.Terminal
