import AgentPackage.Sorting

/-!
# Issues

What an audit finds: a code, a message, how bad it is, and where. Issues are listed by file, by
line and by code; one without a line is listed as if it were about the first.
-/

namespace AgentPackage

/-- How bad an issue is. -/
inductive Severity where
  /-- The package is not valid. -/
  | error
  /-- The package is valid but suspect. -/
  | warning
  deriving DecidableEq, Repr, Inhabited

/-- The word for a severity. -/
def Severity.name : Severity → String
  | .error => "error"
  | .warning => "warning"

/-- The word for a severity in capitals. -/
def Severity.title : Severity → String
  | .error => "ERROR"
  | .warning => "WARNING"

/-- One finding of an audit. -/
structure Issue where
  /-- The code of what was found. -/
  code : String
  /-- What was found, in words. -/
  message : String
  /-- How bad it is. -/
  severity : Severity
  /-- The file it is about. -/
  file : String
  /-- The line it is about, counted from one, if it is about one. -/
  line : Option Int := none
  deriving DecidableEq, Repr, Inhabited

namespace Issue

/-- The line by which an issue is listed. -/
def listedLine (i : Issue) : Int :=
  match i.line with
  | some n => if n == 0 then 1 else n
  | none => 1

/-- Whether `a` is listed before `b` or at the same place. -/
def le (a b : Issue) : Bool :=
  if a.file != b.file then a.file < b.file
  else if a.listedLine != b.listedLine then a.listedLine < b.listedLine
  else a.code ≤ b.code

/-- The issues in the order of their places, those at the same place as they stand. -/
def sort (issues : List Issue) : List Issue :=
  Sorting.sort le issues

/-- Where an issue is: its file, and its line if it has one. -/
def location (i : Issue) : String :=
  match i.line with
  | some n => i.file ++ ":" ++ toString n
  | none => i.file

/-- The text of an issue. -/
def text (i : Issue) : String :=
  "[" ++ i.severity.title ++ "] " ++ i.code ++ ": " ++ i.message ++ " (" ++ i.location ++ ")"

end Issue

end AgentPackage
