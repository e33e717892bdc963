import AgentPackage.Proofs.Audit.Report

/-!
# Isolation of rules

A rule is given by what it reports. Here it is taken as a procedure instead, which adds issues and
counts to the report that all rules share, in any order, and then ends or fails at any point. Both
readings give the same report (`perform_eq_take`, `run_isolated`): a failure keeps what its rule
did before, adds one issue, and leaves the other rules alone.
-/

namespace AgentPackage.Audit

/-- What a rule does to the report in one step. -/
inductive Emission where
  /-- It adds an issue. -/
  | issue (i : Issue)
  /-- It adds to the count under a name. -/
  | count (name : String) (amount : Int)

namespace Emission

/-- The issue that a step adds, if it adds one. -/
@[simp]
def issue? : Emission → Option Issue
  | .issue i => some i
  | .count _ _ => none

/-- What a step counts, if it counts. -/
@[simp]
def count? : Emission → Option (String × Int)
  | .issue _ => none
  | .count name amount => some (name, amount)

/-- The report after a step. -/
def apply (r : Report) : Emission → Report
  | .issue i => r.add i
  | .count name amount => r.count name amount

/-- Steps leave the report that their issues and their counts give, however the two are mixed. -/
theorem foldl_apply (emissions : List Emission) (r : Report) :
    emissions.foldl apply r =
      (emissions.filterMap issue?).foldl Report.add
        ((emissions.filterMap count?).foldl (fun r c => r.count c.1 c.2) r) := by
  -- issues and counts go to different parts of a report, so they can be taken apart
  rw [Report.foldl_add, Report.foldl_count]
  induction emissions generalizing r with
  | nil => simp [Counters.addAll]
  | cons e emissions ih =>
    rw [List.foldl_cons, ih]
    cases e with
    | issue i => simp [apply, List.filterMap_cons, Report.add]
    | count name amount => simp [apply, List.filterMap_cons, Report.count, Counters.addAll]

end Emission

/-- A rule as a procedure: the steps that it takes on the report, and why it ends, if it fails. -/
structure Procedure where
  /-- The name of the rule. -/
  name : String
  /-- The steps up to the end or the failure. -/
  emissions : FileTree → Package → AuditSettings → List Emission
  /-- The failure that ends the procedure, if one does. -/
  failure : FileTree → Package → AuditSettings → Option Failure

namespace Procedure

variable (t : FileTree) (settings : AuditSettings) (p : Package)

/-- The issues that a procedure adds, up to its failure if it fails. -/
def issues (q : Procedure) : List Issue :=
  (q.emissions t p settings).filterMap Emission.issue?

/-- What a procedure counts, up to its failure if it fails. -/
def counts (q : Procedure) : List (String × Int) :=
  (q.emissions t p settings).filterMap Emission.count?

/-- The issue that reports the failure of a procedure, if it fails. -/
def failureIssue? (q : Procedure) : Option Issue :=
  (q.failure t p settings).map (ruleFailure p q.name)

/-- The rule that reports what a procedure does. -/
def rule (q : Procedure) : Rule where
  name := q.name
  findings t p settings := ⟨q.issues t settings p, q.counts t settings p, q.failure t p settings⟩

/-- The report after a procedure: its steps are taken one by one, and its failure is reported. -/
def perform (r : Report) (q : Procedure) : Report :=
  let r := (q.emissions t p settings).foldl Emission.apply r
  match q.failureIssue? t settings p with
  | none => r
  | some i => r.add i

/-- Every rule is that of some procedure. -/
theorem exists_rule_eq (r : Rule) : ∃ q : Procedure, q.rule = r := by
  -- add all issues, then count: the order between the two does not show
  refine ⟨⟨r.name, fun t p settings =>
    (r.findings t p settings).issues.map .issue ++
      (r.findings t p settings).counts.map fun c => .count c.1 c.2,
    fun t p settings => (r.findings t p settings).failure⟩, ?_⟩
  simp [rule, issues, counts, List.filterMap_map, Function.comp_def]

/-- Performing a procedure on the report takes the findings of its rule into it. -/
theorem perform_eq_take (r : Report) (q : Procedure) :
    q.perform t settings p r = take p q.name r (q.rule.findings t p settings) := by
  unfold perform take issuesOf
  rw [Emission.foldl_apply, List.foldl_append]
  show _ = List.foldl Report.add _ (Option.toList (q.failureIssue? t settings p))
  cases q.failureIssue? t settings p <;> rfl

end Procedure

open Procedure in
/-- Rules are isolated from each other. Running them as procedures on one report, and sorting it
at the end, gives the report whose issues are the stable sort, by file, line and code, of what the
rules add one after another, a failing rule's issues up to its failure being followed by one issue
about the failure. The counters add up what all rules count, and the exit code is one exactly when
there is an error, or an issue while warnings count as failure. -/
theorem run_isolated (t : FileTree) (settings : AuditSettings) (procedures : List Procedure)
    (p : Package) :
    let report := run t settings (procedures.map rule) p
    report = (procedures.foldl (perform t settings p) (start settings p)).sort ∧
      Sorting.IsStableSort Issue.place
        (procedures.flatMap fun q =>
          q.issues t settings p ++ (q.failureIssue? t settings p).toList)
        report.issues ∧
      (∀ name, report.counters.count name =
        Counters.total name (inventoryCounts p ++ procedures.flatMap (counts t settings p))) ∧
      (report.exitCode = 1 ↔
        (∃ i ∈ report.issues, i.severity = .error) ∨
          (settings.failOnWarnings = true ∧ report.issues ≠ [])) ∧
      report.exitCode ≤ 1 := by
  have hreported : reported t settings (procedures.map rule) p =
      procedures.flatMap fun q =>
        q.issues t settings p ++ (q.failureIssue? t settings p).toList := by
    rw [reported, List.flatMap_map]
    rfl
  have hcounted : counted t settings (procedures.map rule) p =
      procedures.flatMap (counts t settings p) := by
    rw [counted, List.flatMap_map]
    rfl
  refine ⟨?_, ?_, ?_, ?_, Report.exitCode_le_one _⟩
  · -- the report step by step
    have hperform : perform t settings p =
        fun r q => take p q.name r (q.rule.findings t p settings) := by
      funext r q
      exact perform_eq_take t settings p r q
    rw [hperform, run, List.foldl_map]
    rfl
  · -- the issues and their order
    rw [run_eq, ← hreported]
    exact Issue.isStableSort_sort _
  · -- the counters, of which a name that is never counted is zero
    intro name
    rw [run_eq, hcounted]
    simp only [Counters.count, Counters.lookup_addAll]
    split
    · simp
    · rename_i hname
      rw [Counters.total_eq_zero hname]
      rfl
  · -- the exit code
    have := Report.exitCode_eq_one_iff (consistent_run t settings (procedures.map rule) p)
    rw [this, run_eq]

end AgentPackage.Audit
