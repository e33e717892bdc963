import AgentPackage.Text.Cluster
import AgentPackage.Text.Split

/-!
# Styled text

Text for a terminal with the stretches that styles cover. The terminal is sent the text in pieces:
one ends wherever a style begins or ends. The columns of a line are those of its pieces together,
since a joiner or a selector does not act across the end of a piece. Main statement: the pieces of a
text hold its characters, in order.
-/

namespace AgentPackage.Terminal

/-- A stretch of text that a style covers. -/
structure Span where
  /-- The number of characters before the stretch. -/
  start : Nat
  /-- The number of characters before its end. -/
  stop : Nat
  /-- The text by which the style is asked for. -/
  style : String
  deriving DecidableEq, Repr

/-- Text with styles. -/
structure Styled where
  /-- The characters. -/
  chars : List Char := []
  /-- The stretches that styles cover. -/
  spans : List Span := []
  deriving DecidableEq, Repr, Inhabited

namespace Styled

/-- Whether a character is left out of text for a terminal: the bell, the backspace, the vertical
tab, the form feed and the carriage return. -/
def isLeftOut (c : Char) : Bool :=
  c.toNat == 7 || c.toNat == 8 || c.toNat == 11 || c.toNat == 12 || c.toNat == 13

/-- Plain characters. -/
def ofChars (cs : List Char) : Styled :=
  { chars := cs.filter fun c => !isLeftOut c }

/-- The text with plain characters at its end. -/
def append (s : Styled) (cs : List Char) : Styled :=
  { s with chars := s.chars ++ (ofChars cs).chars }

/-- The text with a style from a place to its end. -/
def cover (s : Styled) (start : Nat) (style : String) : Styled :=
  { s with spans := s.spans ++ [⟨start, s.chars.length, style⟩] }

/-- The part of the text between two places; a style has to cover a character of it. -/
def slice (s : Styled) (start stop : Nat) : Styled :=
  { chars := (s.chars.take stop).drop start
    spans := s.spans.filterMap fun p =>
      let first := p.start - start
      let last := min p.stop stop - start
      if first < last then some { p with start := first, stop := last } else none }

/-- The parts between the places in a list, and before and behind them. -/
def divideFrom (s : Styled) (start : Nat) : List Nat → List Styled
  | [] => [s.slice start s.chars.length]
  | stop :: stops => s.slice start stop :: divideFrom s stop stops

/-- The text divided at some places, or as it is if there are none. -/
def divide (s : Styled) (stops : List Nat) : List Styled :=
  if stops.isEmpty then [s] else divideFrom s 0 stops

/-- The parts of a text that has its line breaks at the ends of `parts`, the first of which begins
at `start`. -/
def partsFrom (s : Styled) (start : Nat) : List (List Char) → List Styled
  | [] => []
  | part :: parts =>
    s.slice start (start + part.length) :: partsFrom s (start + part.length + 1) parts

/-- The parts of the text between line breaks. -/
def lines (s : Styled) : List Styled :=
  if s.chars.contains '\n' then partsFrom s 0 (Text.split (· == '\n') s.chars) else [s]

/-- The text with other characters; styles end where the characters do. -/
def withChars (s : Styled) (cs : List Char) : Styled :=
  { chars := cs
    spans := (s.spans.filter fun p => p.start < cs.length).map fun p =>
      { p with stop := min p.stop cs.length } }

/-- The number of columns that the characters take together. -/
def width (s : Styled) : Nat :=
  Text.width s.chars

/-- The pieces of characters of which the first has `index` characters before it, `piece` being the
piece that is being read, latest character first. -/
def piecesFrom (isEnd : Nat → Bool) (index : Nat) (piece : List Char) :
    List Char → List (List Char)
  | [] => [piece.reverse]
  | c :: cs =>
    if isEnd index && !piece.isEmpty then
      piece.reverse :: piecesFrom isEnd (index + 1) [c] cs
    else piecesFrom isEnd (index + 1) (c :: piece) cs

/-- The pieces in which the terminal is sent the text. -/
def pieces (s : Styled) : List (List Char) :=
  piecesFrom (fun i => s.spans.any fun p => p.start == i || p.stop == i) 0 [] s.chars

end Styled

/-- The columns that the pieces of a line take. -/
def piecesWidth (pieces : List (List Char)) : Nat :=
  pieces.foldl (fun n p => n + Text.width p) 0

/-- The pieces of a line that fit into some columns; the first one that does not is cut. -/
def cropped : Nat → List (List Char) → List (List Char)
  | _, [] => []
  | columns, p :: ps =>
    if Text.width p < columns then p :: cropped (columns - Text.width p) ps
    else [Text.resized columns p]

/-- The pieces of a line in at most so many columns, or in exactly so many if it is to be filled
up with blanks. -/
def fitted (fill : Bool) (columns : Nat) (pieces : List (List Char)) : List (List Char) :=
  let used := piecesWidth pieces
  if used < columns then
    if fill then pieces ++ [List.replicate (columns - used) ' '] else pieces
  else if columns < used then cropped columns pieces
  else pieces

end AgentPackage.Terminal
