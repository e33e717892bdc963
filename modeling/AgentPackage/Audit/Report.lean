import AgentPackage.Audit.Issue

/-!
# Reports

What an audit gives: the issues, counts of what was met, and whether the package passes. A report
is built by adding issues, by counting and by sorting; the worst severity that was added decides
the status.
-/

namespace AgentPackage

/-- How an audit ends. -/
inductive Status where
  /-- Nothing was found. -/
  | pass
  /-- There are warnings only. -/
  | warn
  /-- There is an error. -/
  | fail
  deriving DecidableEq, Repr, Inhabited

namespace Status

/-- The word for a status. -/
def name : Status → String
  | .pass => "pass"
  | .warn => "warn"
  | .fail => "fail"

/-- The status after an issue of some severity. -/
def after : Status → Severity → Status
  | _, .error => .fail
  | .pass, .warning => .warn
  | s, .warning => s

end Status

/-- Counts under names, in the order in which the names were first counted. -/
abbrev Counters := List (String × Int)

namespace Counters

/-- Adds to the count under a name. -/
def add (name : String) (amount : Int) : Counters → Counters
  | [] => [(name, amount)]
  | (n, a) :: rest => if n == name then (n, a + amount) :: rest else (n, a) :: add name amount rest

/-- The count under a name, zero if nothing was counted. -/
def count (counters : Counters) (name : String) : Int :=
  (counters.lookup name).getD 0

/-- Adding changes the count under its own name by the amount and leaves the others alone. -/
theorem count_add (name other : String) (amount : Int) (counters : Counters) :
    (add name amount counters).count other =
      counters.count other + if other = name then amount else 0 := by
  unfold count
  fun_induction add name amount counters <;> grind

end Counters

/-- The result of an audit. -/
structure Report where
  /-- How the audit ends. -/
  status : Status := .pass
  /-- What was found. -/
  issues : List Issue := []
  /-- What was counted. -/
  counters : Counters := []
  /-- Whether warnings count as failure. -/
  failOnWarnings : Bool := false
  deriving DecidableEq, Repr, Inhabited

namespace Report

/-- A step by which a report is built. -/
inductive Step where
  /-- Adds an issue. -/
  | add (issue : Issue)
  /-- Adds to the count under a name. -/
  | count (name : String) (amount : Int)
  /-- Lists the issues by their places. -/
  | sort

/-- Adds an issue. -/
def add (r : Report) (i : Issue) : Report :=
  { r with status := r.status.after i.severity, issues := r.issues ++ [i] }

/-- Adds to the count under a name. -/
def count (r : Report) (name : String) (amount : Int) : Report :=
  { r with counters := r.counters.add name amount }

/-- Lists the issues by their places. -/
def sort (r : Report) : Report :=
  { r with issues := Issue.sort r.issues }

/-- The report after a step. -/
def step (r : Report) : Step → Report
  | .add issue => r.add issue
  | .count name amount => r.count name amount
  | .sort => r.sort

/-- The report after some steps. -/
def run (r : Report) (steps : List Step) : Report :=
  steps.foldl step r

/-- The issues that are errors. -/
def errors (r : Report) : List Issue :=
  r.issues.filter fun i => i.severity == .error

/-- The issues that are warnings. -/
def warnings (r : Report) : List Issue :=
  r.issues.filter fun i => i.severity == .warning

/-- The code with which a command that made the report ends: one for a failure, and for warnings
that count as failure. -/
def exitCode (r : Report) : Nat :=
  match r.status with
  | .fail => 1
  | .warn => if r.failOnWarnings then 1 else 0
  | .pass => 0

/-- A step after some steps is the last one. -/
theorem run_append_singleton (r : Report) (steps : List Step) (s : Step) :
    r.run (steps ++ [s]) = (r.run steps).step s := by
  simp [run]

end Report

end AgentPackage
