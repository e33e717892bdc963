import AgentPackage.Proofs.Audit.Report

/-!
# Reports step by step

A report is built by adding issues, by counting and by sorting, and the steps may come in any order.
Sorting in between moves issues of different places only, so that a later step cannot tell whether
the issues were sorted before it: with a sort at the end the report is the one that is sorted once.

## Main definitions

* `Report.Step.issue?`, `Report.Step.count?`: what a step adds and what it counts;
* `Report.Holds`: a report holds some issues and some counts, wherever the issues stand.

## Main results

* `Status.ofIssues_eq_fail_iff`, `Status.ofIssues_eq_warn_iff`, `Status.ofIssues_eq_pass_iff`: what
  each status says about the issues;
* `Report.Holds.step`, `Report.holds_run`: a report holds what was added to it and counted;
* `Report.sort_run`: a report after any steps, and the same after the steps without sorting.
-/

namespace AgentPackage

namespace Status

variable {issues : List Issue}

theorem ofIssues_eq_fail_iff :
    ofIssues issues = .fail ↔ ∃ i ∈ issues, i.severity = .error := by
  unfold ofIssues
  by_cases herr : ∃ i ∈ issues, i.severity = .error
  · simp [herr]
  · by_cases hnil : issues = [] <;> simp [herr, hnil]

theorem ofIssues_eq_pass_iff : ofIssues issues = .pass ↔ issues = [] := by
  unfold ofIssues
  by_cases herr : ∃ i ∈ issues, i.severity = .error
  · have hne : issues ≠ [] := List.ne_nil_of_mem herr.choose_spec.1
    simp [herr, hne]
  · by_cases hnil : issues = [] <;> simp [herr, hnil]

theorem ofIssues_eq_warn_iff :
    ofIssues issues = .warn ↔ issues ≠ [] ∧ ∀ i ∈ issues, i.severity = .warning := by
  -- an issue that is no error is a warning
  have hwarning : (∀ i ∈ issues, i.severity = .warning) ↔
      ¬ ∃ i ∈ issues, i.severity = .error := by
    push Not
    refine forall₂_congr fun i _ => ?_
    cases i.severity <;> simp
  rw [hwarning, ← ofIssues_eq_fail_iff, ne_eq, ← ofIssues_eq_pass_iff]
  cases ofIssues issues <;> simp

end Status

namespace Counters

/-- Adding under a name that has a count changes no name, and a new name goes to the end. -/
theorem map_fst_add (name : String) (amount : Int) (counters : Counters) :
    (add name amount counters).map Prod.fst =
      if name ∈ counters.map Prod.fst then counters.map Prod.fst
      else counters.map Prod.fst ++ [name] := by
  fun_induction add name amount counters <;> grind

/-- Each name stands once among the counters after some counts. -/
theorem nodup_addAll {counters : Counters} (h : (counters.map Prod.fst).Nodup)
    (counts : List (String × Int)) : ((counters.addAll counts).map Prod.fst).Nodup := by
  unfold addAll
  induction counts generalizing counters with
  | nil => exact h
  | cons x counts ih =>
    apply ih
    rw [map_fst_add]
    split
    · exact h
    · rename_i hname
      exact List.concat_eq_append ▸ h.concat hname

end Counters

namespace Report

namespace Step

/-- The issue that a step adds, if it adds one. -/
def issue? : Step → Option Issue
  | .add i => some i
  | .count _ _ => none
  | .sort => none

/-- What a step counts, if it counts. -/
def count? : Step → Option (String × Int)
  | .add _ => none
  | .count name amount => some (name, amount)
  | .sort => none

/-- Whether a step lists the issues by their places. -/
def isSort : Step → Bool
  | .add _ => false
  | .count _ _ => false
  | .sort => true

end Step

/-- The report holds the issues and the counts. Those of the issues that have the same place stand in
it as they were added; others may have been moved past each other. -/
structure Holds (r : Report) (added : List Issue) (counts : List (String × Int)) : Prop where
  /-- The status is that of the issues. -/
  status : r.status = Status.ofIssues added
  /-- The issues of each place are those that were added. -/
  filter_eq : ∀ k, r.issues.filter (fun i => decide (i.place = k)) =
    added.filter (fun i => decide (i.place = k))
  /-- The counters add up what was counted. -/
  counters : r.counters = Counters.addAll [] counts

section Holds

variable {r r' : Report} {added : List Issue} {counts : List (String × Int)}

/-- A step adds its issue and its count to what the report holds. -/
theorem Holds.step (h : r.Holds added counts) (s : Step) :
    (r.step s).Holds (added ++ s.issue?.toList) (counts ++ s.count?.toList) := by
  cases s with
  | add i =>
    refine ⟨?_, fun k => ?_, ?_⟩
    · show r.status.after i.severity = _
      rw [h.status, Status.after_ofIssues]
      rfl
    · show (r.issues ++ [i]).filter _ = (added ++ [i]).filter _
      rw [List.filter_append, List.filter_append, h.filter_eq]
    · show r.counters = Counters.addAll [] (counts ++ [])
      rw [h.counters, List.append_nil]
  | count name amount =>
    refine ⟨?_, fun k => ?_, ?_⟩
    · exact h.status.trans (by simp [Step.issue?])
    · exact (h.filter_eq k).trans (by simp [Step.issue?])
    · show r.counters.add name amount = Counters.addAll [] (counts ++ [(name, amount)])
      rw [h.counters]
      simp [Counters.addAll]
  | sort =>
    refine ⟨?_, fun k => ?_, ?_⟩
    · exact h.status.trans (by simp [Step.issue?])
    · show (Issue.sort r.issues).filter _ = (added ++ []).filter _
      -- sorting is stable
      rw [(Issue.isStableSort_sort r.issues).filter_eq, h.filter_eq, List.append_nil]
    · exact h.counters.trans (by simp [Step.count?])

/-- A report that is built from nothing holds what the steps add and what they count. -/
theorem holds_run (failOnWarnings : Bool) (steps : List Step) :
    (run { failOnWarnings } steps).Holds (steps.filterMap Step.issue?)
      (steps.filterMap Step.count?) := by
  -- along the steps, the last one apart
  induction steps using List.reverseRecOn with
  | nil => exact ⟨rfl, fun _ => rfl, rfl⟩
  | append_singleton steps s ih =>
    have hstep := ih.step s
    rw [run_append_singleton, List.filterMap_append, List.filterMap_append]
    cases s <;> exact hstep

/-- The last sort gives the stable sort of the issues as they were added. -/
theorem Holds.isStableSort_sort (h : r.Holds added counts) :
    Sorting.IsStableSort Issue.place added r.sort.issues := by
  have hsort : r.sort.issues = Issue.sort added :=
    Sorting.sort_congr Issue.le_iff_place_le h.filter_eq
  rw [hsort]
  exact Issue.isStableSort_sort added

/-- Two reports that hold the same cannot be told apart once they are sorted. -/
theorem Holds.sort_eq (h : r.Holds added counts) (h' : r'.Holds added counts)
    (hwarnings : r.failOnWarnings = r'.failOnWarnings) : r.sort = r'.sort := by
  have hissues : Issue.sort r.issues = Issue.sort r'.issues :=
    h.isStableSort_sort.unique h'.isStableSort_sort
  have hstatus : r.status = r'.status := h.status.trans h'.status.symm
  have hcounters : r.counters = r'.counters := h.counters.trans h'.counters.symm
  rw [sort, sort, hstatus, hcounters, hwarnings, hissues]

end Holds

/-- No step changes whether warnings count as failure. -/
theorem failOnWarnings_run (r : Report) (steps : List Step) :
    (r.run steps).failOnWarnings = r.failOnWarnings := by
  unfold run
  induction steps generalizing r with
  | nil => rfl
  | cons s steps ih =>
    rw [List.foldl_cons, ih]
    cases s <;> rfl

/-- A report that is built from nothing, by any steps in any order. It fails exactly if an error was
added, it warns exactly if there are warnings and nothing else, and it passes exactly if nothing was
added. Its counters have the names that were counted, each once, with what was counted under them.
A sort at the end gives the report that is sorted only there, whose issues are the stable sort of
those that were added. -/
theorem sort_run (failOnWarnings : Bool) (steps : List Step) :
    let r := run { failOnWarnings } steps
    let added := steps.filterMap Step.issue?
    let counts := steps.filterMap Step.count?
    (r.status = .fail ↔ ∃ i ∈ added, i.severity = .error) ∧
      (r.status = .warn ↔ added ≠ [] ∧ ∀ i ∈ added, i.severity = .warning) ∧
      (r.status = .pass ↔ added = []) ∧
      (r.counters.map Prod.fst).Nodup ∧
      (∀ name, r.counters.lookup name =
        if name ∈ counts.map Prod.fst then some (Counters.total name counts) else none) ∧
      r.sort = (run { failOnWarnings } (steps.filter fun s => !s.isSort)).sort ∧
      Sorting.IsStableSort Issue.place added r.sort.issues := by
  intro r added counts
  have hr : r.Holds added counts := holds_run failOnWarnings steps
  refine ⟨?_, ?_, ?_, ?_, fun name => ?_, ?_, hr.isStableSort_sort⟩
  · rw [hr.status, Status.ofIssues_eq_fail_iff]
  · rw [hr.status, Status.ofIssues_eq_warn_iff]
  · rw [hr.status, Status.ofIssues_eq_pass_iff]
  · have hnone : (([] : Counters).map Prod.fst).Nodup := List.nodup_nil
    rw [hr.counters]
    exact Counters.nodup_addAll hnone counts
  · rw [hr.counters, Counters.lookup_addAll]
    simp [Counters.count]
  · -- the steps that are left out add nothing and count nothing
    have hother := holds_run failOnWarnings (steps.filter fun s => !s.isSort)
    have hissues : (steps.filter fun s => !s.isSort).filterMap Step.issue? = added := by
      rw [List.filterMap_filter]
      refine List.filterMap_congr fun s _ => ?_
      cases s <;> rfl
    have hcounts : (steps.filter fun s => !s.isSort).filterMap Step.count? = counts := by
      rw [List.filterMap_filter]
      refine List.filterMap_congr fun s _ => ?_
      cases s <;> rfl
    rw [hissues, hcounts] at hother
    exact hr.sort_eq hother (by rw [failOnWarnings_run, failOnWarnings_run])

end Report

end AgentPackage
