import AgentPackage.Terminal.Wrap

/-!
# Tables in a terminal

A table has a title in the middle above it, a head in heavy lines and a body in light ones. A
column is as wide as its widest cell. Where the table would be wider than the terminal its widest
columns are made narrower, and their cells are broken into lines.
-/

namespace AgentPackage.Terminal

/-- A table whose cells hold text of some kind. -/
structure Table (α : Type) where
  /-- The title. -/
  title : String
  /-- The heads of the columns. -/
  heads : List String
  /-- The rows, with one cell for each column. -/
  rows : List (List α) := []
  deriving DecidableEq, Repr

namespace Table

/-- The cells of each column. -/
def columns {α : Type} (t : Table α) : List (List α) :=
  (List.range t.heads.length).map fun i => t.rows.filterMap fun row => row[i]?

/-- Whether a character ends a line when the width of a cell is measured. -/
def endsMeasuredLine (c : Char) : Bool :=
  c == '\n' || (0x1C ≤ c.toNat && c.toNat ≤ 0x1E) || c.toNat == 0x85 || c.toNat == 0x2028 ||
    c.toNat == 0x2029

/-- The width of the widest line of a cell, tabs not counted. -/
def cellWidth (cell : Styled) : Nat :=
  ((Text.split endsMeasuredLine cell.chars).map Text.width).foldl max 0

/-- The width of the blanks around a cell. -/
def padding : Nat := 2

/-- The width of some columns together. -/
def total (widths : List Nat) : Nat :=
  widths.foldr (· + ·) 0

/-- The width of the lines around and between some columns. -/
def frameWidth (columns : Nat) : Nat := columns + 1

/-- The widths of the columns that the cells ask for. -/
def wantedWidths (t : Table Styled) : List Nat :=
  t.heads.zipWith (fun head cells =>
    (Styled.ofChars head.toList :: cells).map cellWidth |>.foldl max 0 |> (· + padding)) t.columns

/-- The quotient of two numbers, rounded to the nearest one and from the middle to an even one. -/
def roundedQuotient (n d : Nat) : Nat :=
  let q := n / d
  let twice := 2 * (n % d)
  if twice < d then q
  else if twice > d then q + 1
  else if q % 2 == 0 then q else q + 1

/-- Takes `excess` columns away from the `count` widths that satisfy `test`, evenly and no more
than `most` from each. -/
def reduce (test : Nat → Bool) (most : Nat) : Nat → Nat → List Nat → List Nat
  | _, _, [] => []
  | excess, count, w :: ws =>
    if test w && count != 0 then
      let share := min most (roundedQuotient excess count)
      (w - share) :: reduce test most (excess - share) (count - 1) ws
    else w :: reduce test most excess count ws

/-- Makes the widest columns narrower until all fit into `available` columns. The budget bounds the
number of rounds. -/
def narrow (available : Nat) : Nat → List Nat → List Nat
  | 0, ws => ws
  | budget + 1, ws =>
    let excess := total ws - available
    let widest := ws.foldl max 0
    let second := (ws.map fun w => if w == widest then 0 else w).foldl max 0
    if excess == 0 || widest == second then ws
    else
      let isWidest (w : Nat) : Bool := w == widest
      narrow available budget
        (reduce isWidest (min excess (widest - second)) excess (ws.countP isWidest) ws)

/-- The widths of the columns of a table in a terminal of the given width. -/
def widths (terminal : Nat) (t : Table Styled) : List Nat :=
  let available := terminal - frameWidth t.heads.length
  let wanted := t.wantedWidths.map (min available)
  narrow available (total wanted - available) wanted

/-- A line with blanks behind it, up to so many columns. -/
def padded (columns : Nat) (line : List Char) : List Char :=
  line ++ List.replicate (columns - Text.width line) ' '

/-- A text in the middle of so many columns. -/
def centred (columns : Nat) (cs : List Char) : List Char :=
  let left := (columns - Text.width cs) / 2
  padded columns (List.replicate left ' ' ++ cs)

/-- The lines of a cell in a column of the given width, one blank at each side. -/
def cellLines (width : Nat) (cell : Styled) : List (List Char) :=
  let inner := width - padding
  (Wrap.lines .ellipsis true inner cell).map fun l =>
    (fitted true width ([' '] :: fitted true inner l.pieces ++ [[' ']])).flatten

/-- Where the lines of a cell stand in a row that has more lines. -/
inductive Side where
  /-- At the top. -/
  | top
  /-- At the bottom. -/
  | bottom
  deriving DecidableEq, Repr

/-- The lines of a row, with the vertical line that stands before, between and behind cells. -/
def rowLines (bar : Char) (side : Side) (widths : List Nat) (cells : List Styled) :
    List (List Char) :=
  let blocks := widths.zipWith (fun w c => (w, cellLines w c)) cells
  let height := (blocks.map fun b => b.2.length).foldl max 1
  let filled := blocks.map fun (w, ls) =>
    let blanks := List.replicate (height - ls.length) (List.replicate w ' ')
    match side with
    | .top => ls ++ blanks
    | .bottom => blanks ++ ls
  (List.range height).map fun i => bar :: filled.flatMap fun ls => ls.getD i [] ++ [bar]

/-- A horizontal line. -/
def rule (left stroke cross right : Char) (widths : List Nat) : List Char :=
  left :: [cross].intercalate (widths.map fun w => List.replicate w stroke) ++ [right]

/-- The lines of a table in a terminal of the given width. -/
def lines (terminal : Nat) (t : Table Styled) : List (List Char) :=
  let ws := t.widths terminal
  let heads := t.heads.map fun head => Styled.ofChars head.toList
  [centred (total ws + frameWidth ws.length) t.title.toList, rule '┏' '━' '┳' '┓' ws] ++
    rowLines '┃' .bottom ws heads ++ [rule '┡' '━' '╇' '┩' ws] ++
    t.rows.flatMap (rowLines '│' .top ws) ++ [rule '└' '─' '┴' '┘' ws]

end Table

end AgentPackage.Terminal
