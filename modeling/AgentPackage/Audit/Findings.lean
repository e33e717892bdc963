import AgentPackage.Audit.Report
import AgentPackage.Configuration.Basic
import AgentPackage.Document
import AgentPackage.Package.Model

/-!
# Findings of a rule

What a rule reports: issues, counts, and perhaps a failure because of which it could not go on.
Findings are put together one after another; what would come after a failure is not reported.
-/

namespace AgentPackage

/-- What a rule reports. -/
structure Findings where
  /-- The issues, in the order in which they were found. -/
  issues : List Issue := []
  /-- What was counted, in order. -/
  counts : List (String × Int) := []
  /-- Why the rule did not go on, if it did not. -/
  failure : Option Failure := none

namespace Findings

/-- Nothing is reported. -/
def nothing : Findings := {}

/-- One issue is reported. -/
def one (i : Issue) : Findings := { issues := [i] }

/-- One more is counted under a name. -/
def counted (name : String) : Findings := { counts := [(name, 1)] }

/-- The rule does not go on. -/
def failed (f : Failure) : Findings := { failure := some f }

/-- First one, then the other, unless the first ends in a failure. -/
def append (a b : Findings) : Findings :=
  match a.failure with
  | some _ => a
  | none => ⟨a.issues ++ b.issues, a.counts ++ b.counts, b.failure⟩

instance : Append Findings := ⟨append⟩

/-- The findings about each of some values, one after another. -/
def all {α : Type} (xs : List α) (f : α → Findings) : Findings :=
  xs.foldr (fun x rest => f x ++ rest) nothing

/-- Goes on with a result, or ends with its failure. -/
def check {α : Type} (result : Except Failure α) (next : α → Findings) : Findings :=
  match result with
  | .ok a => next a
  | .error f => failed f

/-- Goes on if a condition holds. -/
def when (condition : Bool) (findings : Findings) : Findings :=
  if condition then findings else nothing

/-- An error about a file, or about a line of it. -/
def error (code message : String) (file : Path) (line : Option Nat) : Findings :=
  one ⟨code, message, .error, file.text, line.map Int.ofNat⟩

/-- A warning about a file, or about a line of it. -/
def warning (code message : String) (file : Path) (line : Option Nat) : Findings :=
  one ⟨code, message, .warning, file.text, line.map Int.ofNat⟩

/-- An error about the first line of a file that holds `token`. -/
def errorAt (t : FileTree) (code message : String) (file : Path) (token : String) : Findings :=
  check (Document.lineContaining t file token) fun line => error code message file line

/-- A warning about the first line of a file that holds `token`. -/
def warningAt (t : FileTree) (code message : String) (file : Path) (token : String) : Findings :=
  check (Document.lineContaining t file token) fun line => warning code message file line

/-- An error about each value of a manifest that did not fit. -/
def fieldErrors (t : FileTree) (code subject : String) (file : Path)
    (issues : List FieldIssue) : Findings :=
  all issues fun i =>
    errorAt t code
      (subject ++ ": field '" ++ i.location ++ "' has an invalid value (" ++ i.message ++ ")")
      file i.field

@[simp] theorem nothing_append (a : Findings) : nothing ++ a = a := by
  cases a; rfl

@[simp] theorem append_nothing (a : Findings) : a ++ nothing = a := by
  show append a nothing = a
  cases a with
  | mk issues counts failure => cases failure <;> simp [append, nothing]

/-- It does not matter how findings are grouped. -/
theorem append_assoc (a b c : Findings) : a ++ b ++ c = a ++ (b ++ c) := by
  show append (append a b) c = append a (append b c)
  cases a with
  | mk issues counts failure =>
    cases failure with
    | some f => rfl
    | none =>
      cases b with
      | mk issues' counts' failure' => cases failure' <;> simp [append]

/-- Without a failure the issues of both are reported. -/
theorem issues_append {a b : Findings} (h : a.failure = none) :
    (a ++ b).issues = a.issues ++ b.issues := by
  show (append a b).issues = _
  simp [append, h]

end Findings

/-- A rule of an audit. -/
structure Rule where
  /-- The name of the rule. -/
  name : String
  /-- What the rule reports about a package. The file tree is that of the moment. -/
  findings : FileTree → Package → AuditSettings → Findings

end AgentPackage
