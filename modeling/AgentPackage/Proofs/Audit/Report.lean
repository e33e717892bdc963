import AgentPackage.Audit.Run
import AgentPackage.Proofs.Sorting
import Mathlib

/-!
# What a run of rules reports

A run takes the findings of its rules into one report, which is sorted at the end. `run_eq` gives
that report in closed form: its issues are the sort of what the rules report one after another, its
counters add up what they count, and its status is that of its issues.

## Main definitions

* `Issue.place`: file, line and code of an issue, by which issues are listed;
* `Status.ofIssues`: the status that issues call for;
* `Counters.addAll`: counters after some counts.

## Main results

* `Issue.isStableSort_sort`: issues are sorted stably by their places;
* `Counters.lookup_addAll`: counters add up what is counted under each name;
* `Report.exitCode_eq_one_iff`: the exit code is decided by the issues;
* `Audit.run_eq`: the report of a run.
-/

namespace AgentPackage

namespace Issue

/-- Where an issue is listed: by its file, then by its line, then by its code. -/
def place (i : Issue) : String ×ₗ ℤ ×ₗ String :=
  toLex (i.file, toLex (i.listedLine, i.code))

/-- The order of issues is the lexicographic order of their places. -/
theorem le_iff_place_le (a b : Issue) : le a b = true ↔ a.place ≤ b.place := by
  unfold le place
  rw [Prod.Lex.toLex_le_toLex, Prod.Lex.toLex_le_toLex]
  -- the later parts of a place count only where the earlier ones are equal
  by_cases hf : a.file = b.file
  · by_cases hl : a.listedLine = b.listedLine
    · simp [hf, hl]
    · simp [hf, hl]
  · simp only [bne_iff_ne, ne_eq, hf, not_false_eq_true, if_true, decide_eq_true_eq, false_and,
      or_false]

/-- Issues are sorted stably by their places. -/
theorem isStableSort_sort (issues : List Issue) :
    Sorting.IsStableSort place issues (sort issues) :=
  Sorting.isStableSort_sort le_iff_place_le issues

/-- Issues have the same place exactly when they agree on file, line and code. -/
theorem place_eq_iff {a b : Issue} :
    a.place = b.place ↔ a.file = b.file ∧ a.listedLine = b.listedLine ∧ a.code = b.code := by
  simp [place]

end Issue

namespace Status

/-- The status that issues call for: failure for an error, a warning for anything else. -/
def ofIssues (issues : List Issue) : Status :=
  if issues.any fun i => i.severity == .error then .fail
  else if issues.isEmpty then .pass
  else .warn

/-- An issue changes the status into that of the issues with it. -/
theorem after_ofIssues (issues : List Issue) (i : Issue) :
    (ofIssues issues).after i.severity = ofIssues (issues ++ [i]) := by
  have hne : (issues ++ [i]).isEmpty = false := by simp
  cases hi : i.severity with
  | error => simp [ofIssues, hi, after]
  | warning =>
    -- a warning adds no error, so it can only turn a pass into a warning
    have hany : (issues ++ [i]).any (fun i => i.severity == .error) =
        issues.any fun i => i.severity == .error := by simp [hi]
    unfold ofIssues
    rw [hany, hne]
    split
    · rfl
    · split <;> rfl

/-- Issues added one after another change the status into that of all issues. -/
theorem foldl_after_ofIssues (issues more : List Issue) :
    more.foldl (fun s i => s.after i.severity) (ofIssues issues) = ofIssues (issues ++ more) := by
  induction more generalizing issues with
  | nil => simp
  | cons i more ih =>
    rw [List.foldl_cons, after_ofIssues, ih, List.append_assoc, List.singleton_append]

/-- The order of issues does not matter for the status. -/
theorem ofIssues_perm {xs ys : List Issue} (h : xs.Perm ys) : ofIssues xs = ofIssues ys := by
  unfold ofIssues
  rw [h.any_eq, h.isEmpty_eq]

end Status

namespace Counters

/-- The counters after some counts, made one after another. -/
def addAll (counters : Counters) (counts : List (String × Int)) : Counters :=
  counts.foldl (fun c x => c.add x.1 x.2) counters

/-- What some counts come to under a name. -/
def total (name : String) (counts : List (String × Int)) : Int :=
  ((counts.filter fun x => x.1 == name).map Prod.snd).sum

/-- Adding to a count gives its name the sum and leaves the other names alone. -/
theorem lookup_add (name other : String) (amount : Int) (counters : Counters) :
    (add name amount counters).lookup other =
      if other = name then some (counters.count name + amount) else counters.lookup other := by
  unfold count
  fun_induction add name amount counters <;> grind

/-- A name that is not counted comes to zero. -/
theorem total_eq_zero {name : String} {counts : List (String × Int)}
    (h : name ∉ counts.map Prod.fst) : total name counts = 0 := by
  have hnone : counts.filter (fun x => x.1 == name) = [] := by
    rw [List.filter_eq_nil_iff]
    intro x hx hname
    exact h (List.mem_map.mpr ⟨x, hx, by simpa using hname⟩)
  simp [total, hnone]

/-- Counters add up what is counted under each name, and a name that is not counted keeps its
count. -/
theorem lookup_addAll (counters : Counters) (counts : List (String × Int)) (name : String) :
    (counters.addAll counts).lookup name =
      if name ∈ counts.map Prod.fst then some (counters.count name + total name counts)
      else counters.lookup name := by
  -- the first count has gone into `counters` when the others are added
  induction counts generalizing counters with
  | nil => simp [addAll]
  | cons x counts ih =>
    have hstep : (counters.addAll (x :: counts)).lookup name =
        ((add x.1 x.2 counters).addAll counts).lookup name := rfl
    rw [hstep, ih, count_add, lookup_add]
    by_cases hx : name = x.1
    · subst hx
      -- the name may or may not be counted again later
      by_cases hmem : x.1 ∈ counts.map Prod.fst
      · simp [hmem, total, Int.add_assoc]
      · have htotal := total_eq_zero hmem
        rw [if_neg hmem]
        simp [total] at htotal ⊢
        omega
    · have hx' : ¬ x.1 = name := fun h => hx h.symm
      have hmem : name ∈ (x :: counts).map Prod.fst ↔ name ∈ counts.map Prod.fst := by simp [hx]
      have htotal : total name (x :: counts) = total name counts := by simp [total, hx']
      simp only [hmem, htotal, if_neg hx, Int.add_zero]

/-- Counting in another order gives the same counters, name by name. -/
theorem lookup_addAll_perm (counters : Counters) {xs ys : List (String × Int)} (h : xs.Perm ys)
    (name : String) :
    (counters.addAll xs).lookup name = (counters.addAll ys).lookup name := by
  have htotal : total name xs = total name ys :=
    ((h.filter _).map Prod.snd).sum_eq
  have hmem : name ∈ xs.map Prod.fst ↔ name ∈ ys.map Prod.fst := (h.map Prod.fst).mem_iff
  simp only [lookup_addAll, htotal, hmem]

end Counters

namespace Report

/-- The status of a report is that of its issues. -/
def Consistent (r : Report) : Prop :=
  r.status = Status.ofIssues r.issues

/-- Every step of building a report keeps its status that of its issues. -/
theorem Consistent.step {r : Report} (h : r.Consistent) (s : Step) : (r.step s).Consistent := by
  cases s with
  | add i =>
    show r.status.after i.severity = Status.ofIssues (r.issues ++ [i])
    rw [h, Status.after_ofIssues]
  | count name amount => exact h
  | sort =>
    show r.status = Status.ofIssues (Issue.sort r.issues)
    -- sorting only moves issues
    rw [h, Status.ofIssues_perm (Issue.isStableSort_sort r.issues).perm]

/-- A report that is built from a consistent one is consistent. -/
theorem Consistent.run {r : Report} (h : r.Consistent) (steps : List Step) :
    (r.run steps).Consistent := by
  unfold Report.run
  induction steps generalizing r with
  | nil => exact h
  | cons s steps ih => exact ih (h.step s)

/-- The exit code is one when there is an error, or when warnings count as failure and there is an
issue at all. -/
theorem exitCode_eq_one_iff {r : Report} (h : r.Consistent) :
    r.exitCode = 1 ↔
      (∃ i ∈ r.issues, i.severity = .error) ∨ (r.failOnWarnings = true ∧ r.issues ≠ []) := by
  unfold exitCode
  rw [h]
  unfold Status.ofIssues
  -- an error decides alone; without one the status depends on whether there is an issue
  by_cases herr : ∃ i ∈ r.issues, i.severity = .error
  · simp [herr]
  · have hany : r.issues.any (fun i => i.severity == .error) = false := by
      rw [List.any_eq_false]
      intro i hi hsev
      exact herr ⟨i, hi, by simpa using hsev⟩
    rw [hany]
    by_cases hnil : r.issues = []
    · simp [hnil]
    · cases hw : r.failOnWarnings <;> simp [herr, hnil]

/-- The exit code is zero or one. -/
theorem exitCode_le_one (r : Report) : r.exitCode ≤ 1 := by
  unfold exitCode
  split
  · exact le_rfl
  · split <;> decide
  · decide

/-- Issues added one after another. -/
theorem foldl_add (issues : List Issue) (r : Report) :
    issues.foldl add r =
      { r with
        status := issues.foldl (fun s i => s.after i.severity) r.status
        issues := r.issues ++ issues } := by
  induction issues generalizing r with
  | nil => simp
  | cons i issues ih => rw [List.foldl_cons, ih]; simp [add]

/-- Counts made one after another. -/
theorem foldl_count (counts : List (String × Int)) (r : Report) :
    counts.foldl (fun r c => r.count c.1 c.2) r =
      { r with counters := r.counters.addAll counts } := by
  induction counts generalizing r with
  | nil => rfl
  | cons c counts ih => rw [List.foldl_cons, ih]; rfl

end Report

namespace Audit

variable (t : FileTree) (settings : AuditSettings) (rules : List Rule) (p : Package)

/-- The issues that rules report one after another, those about their failures included. -/
def reported : List Issue :=
  rules.flatMap fun rule => issuesOf p rule.name (rule.findings t p settings)

/-- What rules count one after another. -/
def counted : List (String × Int) :=
  rules.flatMap fun rule => (rule.findings t p settings).counts

/-- Taking the findings of a rule into a report adds its issues and its counts. -/
theorem take_eq (name : String) (r : Report) (f : Findings) :
    take p name r f =
      { r with
        status := (issuesOf p name f).foldl (fun s i => s.after i.severity) r.status
        issues := r.issues ++ issuesOf p name f
        counters := r.counters.addAll f.counts } := by
  unfold take
  rw [Report.foldl_count, Report.foldl_add]

/-- Taking the findings of rules into a consistent report, one rule after another. -/
theorem foldl_take {r : Report} (h : r.Consistent) :
    rules.foldl (fun r rule => take p rule.name r (rule.findings t p settings)) r =
      { r with
        status := Status.ofIssues (r.issues ++ reported t settings rules p)
        issues := r.issues ++ reported t settings rules p
        counters := r.counters.addAll (counted t settings rules p) } := by
  induction rules generalizing r with
  | nil =>
    simp only [List.foldl_nil, reported, counted, List.flatMap_nil, List.append_nil]
    rw [← h]
    rfl
  | cons rule rules ih =>
    rw [List.foldl_cons, take_eq, ih]
    · -- what the first rule gave stands in front of what the others give
      simp [reported, counted, Counters.addAll, List.foldl_append]
    · -- the report is consistent when the next rule is taken
      show _ = Status.ofIssues _
      rw [h, Status.foldl_after_ofIssues]

/-- The report of a run: the sorted issues of all rules with their status, and the counts of the
package and of all rules. -/
theorem run_eq :
    run t settings rules p =
      { status := Status.ofIssues (reported t settings rules p)
        issues := Issue.sort (reported t settings rules p)
        counters :=
          Counters.addAll [] (inventoryCounts p ++ counted t settings rules p)
        failOnWarnings := settings.failOnWarnings } := by
  have hstart : start settings p =
      { counters := Counters.addAll [] (inventoryCounts p)
        failOnWarnings := settings.failOnWarnings } := Report.foldl_count _ _
  unfold run
  rw [hstart, foldl_take]
  · simp [Report.sort, Counters.addAll, List.foldl_append]
  · rfl

/-- The report of a run is consistent. -/
theorem consistent_run : (run t settings rules p).Consistent := by
  rw [run_eq]
  exact Status.ofIssues_perm (Issue.isStableSort_sort _).perm.symm

end Audit

end AgentPackage
