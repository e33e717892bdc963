import AgentPackage.Failure
import AgentPackage.Terminal.Markup
import AgentPackage.Terminal.Table

/-!
# Output of a command

What a command prints, and how it ends if it does not simply come to its end. Outputs are put
together one after another; what would come after an ending is not printed. Text goes out in one
of four ways: as it is, broken into lines for the terminal, line by line without breaking, or as
markup. In all but the first emoji can be written by name.
-/

namespace AgentPackage.CommandLine

/-- How a command ends before its end. -/
inductive Ending where
  /-- With an exit code. -/
  | exit (code : Nat)
  /-- With a failure. -/
  | failed (failure : Failure)
  /-- With text whose markup is wrong. -/
  | badMarkup (fault : Terminal.MarkupFault)

/-- What a command prints, and how it ends if not at its end. -/
structure Output where
  /-- The text that is printed. -/
  text : String := ""
  /-- How the command ends. -/
  ending : Option Ending := none

namespace Output

/-- Nothing is printed. -/
def nothing : Output := {}

/-- First one, then the other, unless the first ends the command. -/
def append (a b : Output) : Output :=
  match a.ending with
  | some _ => a
  | none => ⟨a.text ++ b.text, b.ending⟩

instance : Append Output := ⟨append⟩

/-- One output for each of some values. -/
def all {α : Type} (xs : List α) (f : α → Output) : Output :=
  xs.foldr (fun x rest => f x ++ rest) nothing

/-- The output if a condition holds. -/
def when (condition : Bool) (output : Output) : Output :=
  if condition then output else nothing

/-- The command ends with an exit code. -/
def exit (code : Nat) : Output := { ending := some (.exit code) }

/-- Goes on with a result, or ends with its failure. -/
def check {α : Type} (result : Except Failure α) (next : α → Output) : Output :=
  match result with
  | .ok a => next a
  | .error f => { ending := some (.failed f) }

/-- Some lines. -/
def ofLines (lines : List (List Char)) : Output :=
  { text := String.ofList (lines.flatMap fun l => l ++ ['\n']) }

/-- An empty line. -/
def blankLine : Output := { text := "\n" }

/-- A text as it is, and a line break. -/
def raw (s : String) : Output := { text := s ++ "\n" }

/-- A text with styles, broken into lines of the given width. -/
def wrapped (width : Nat) (s : Terminal.Styled) : Output :=
  ofLines <| (Terminal.Wrap.lines .fold false width s).map fun l =>
    (Terminal.fitted false width l.pieces).flatten

/-- A text, broken into lines of the given width. -/
def broken (width : Nat) (s : String) : Output :=
  wrapped width (Terminal.Styled.ofChars (Terminal.Emoji.replace s.toList))

/-- A text, line by line. -/
def unbroken (s : String) : Output :=
  ofLines <| (Terminal.Wrap.plainLines
    (Terminal.Styled.ofChars (Terminal.Emoji.replace s.toList))).map Terminal.Styled.chars

/-- Goes on with what is shown, or ends with what is wrong with the markup. -/
def checkMarkup {α : Type} (result : Except Terminal.MarkupFault α) (next : α → Output) : Output :=
  match result with
  | .ok a => next a
  | .error f => { ending := some (.badMarkup f) }

/-- A text with markup, broken into lines of the given width. -/
def marked (width : Nat) (s : String) : Output :=
  checkMarkup (do
    let shown ← Terminal.Markup.styled s
    Terminal.Markup.checkStyles shown
    return shown) (wrapped width)

/-- A table with what its markup shows. The columns are measured one after another, before any row
is shown. -/
def styledTable (t : Terminal.Table String) :
    Except Terminal.MarkupFault (Terminal.Table Terminal.Styled) := do
  for cells in t.columns do
    for cell in cells do
      let _ ← Terminal.Markup.styled cell
  let rows ← t.rows.mapM fun row => row.mapM Terminal.Markup.styled
  for row in rows do
    row.forM Terminal.Markup.checkStyles
  return ⟨t.title, t.heads, rows⟩

/-- A table whose cells hold markup, in a terminal of the given width. -/
def table (width : Nat) (t : Terminal.Table String) : Output :=
  checkMarkup (styledTable t) fun t => ofLines (t.lines width)

/-- The exit code of a command with this output. -/
def exitCode (o : Output) : Nat :=
  match o.ending with
  | none => 0
  | some (.exit code) => code
  | some _ => 1

@[simp] theorem nothing_append (a : Output) : nothing ++ a = a := by
  show append nothing a = a
  cases a; simp [append, nothing]

end Output

end AgentPackage.CommandLine
