import AgentPackage.Proofs.Audit.Codes
import AgentPackage.Proofs.Audit.Report
import Mathlib.Data.List.Nodup

/-!
# The order of rules

The issues of a run are sorted by file, line and code, and issues that tie stand in the order of
their rules. Since no code belongs to two rules, issues of different rules never tie, so that the
order in which the rules of a full audit run does not show in its report. The one code that rules
share is that of their failures: two failing rules would be listed in their order.

## Main results

* `sort_flatMap_perm`: lists of issues without ties between them can be sorted in any order;
* `pairwise_untied_battery`: the rules of a full audit have no ties between them when at most one
  of them fails;
* `run_perm`: the report does not depend on the order of the rules.
-/

namespace AgentPackage.Audit

/-- No issue of `xs` is listed at the place of an issue of `ys`. -/
def Untied (xs ys : List Issue) : Prop :=
  ∀ a ∈ xs, ∀ b ∈ ys, a.place ≠ b.place

theorem Untied.symm {xs ys : List Issue} (h : Untied xs ys) : Untied ys xs :=
  fun a ha b hb hab => h b hb a ha hab.symm

/-- Of two lists without ties, one has no issue at a given place. -/
theorem Untied.filter_eq_nil {xs ys : List Issue} (h : Untied xs ys)
    (k : String ×ₗ ℤ ×ₗ String) :
    xs.filter (fun i => decide (i.place = k)) = [] ∨
      ys.filter (fun i => decide (i.place = k)) = [] := by
  by_contra hne
  rw [not_or] at hne
  obtain ⟨a, ha⟩ := List.exists_mem_of_ne_nil _ hne.1
  obtain ⟨b, hb⟩ := List.exists_mem_of_ne_nil _ hne.2
  rw [List.mem_filter, decide_eq_true_eq] at ha hb
  exact h a ha.1 b hb.1 (ha.2.trans hb.2.symm)

section Permutation

variable {α : Type} {f : α → List Issue} {xs ys : List α}

/-- Where values have issues without ties between them, the issues at a place stand in the same
order however the values are ordered. -/
theorem filter_flatMap_perm (hperm : xs.Perm ys)
    (huntied : xs.Pairwise fun a b => Untied (f a) (f b)) (k : String ×ₗ ℤ ×ₗ String) :
    (xs.flatMap f).filter (fun i => decide (i.place = k)) =
      (ys.flatMap f).filter (fun i => decide (i.place = k)) := by
  -- two neighbours can change places since one of them has no issue at `k`
  induction hperm with
  | nil => rfl
  | cons x _ ih =>
    rw [List.flatMap_cons, List.flatMap_cons, List.filter_append, List.filter_append,
      ih huntied.tail]
  | swap x y rest =>
    have hyx : Untied (f y) (f x) := List.rel_of_pairwise_cons huntied List.mem_cons_self
    simp only [List.flatMap_cons, List.filter_append, ← List.append_assoc]
    rcases hyx.filter_eq_nil k with h | h
    · rw [h, List.nil_append, List.append_nil]
    · rw [h, List.nil_append, List.append_nil]
  | trans hxy _ ihxy ihyz =>
    -- in the order half-way no two values have ties either
    have hsymm : ∀ a b, Untied (f a) (f b) → Untied (f b) (f a) := fun _ _ => Untied.symm
    exact (ihxy huntied).trans (ihyz (hxy.pairwise huntied (hsymm _ _)))

/-- Lists of issues without ties between them have one sort, however they are ordered. -/
theorem sort_flatMap_perm (hperm : xs.Perm ys)
    (huntied : xs.Pairwise fun a b => Untied (f a) (f b)) :
    Issue.sort (xs.flatMap f) = Issue.sort (ys.flatMap f) :=
  Sorting.sort_congr Issue.le_iff_place_le (filter_flatMap_perm hperm huntied)

end Permutation

section Battery

variable {t : FileTree} {settings : AuditSettings} {p : Package}

/-- Where at most one value of a list satisfies a test, no two of them do. -/
theorem pairwise_of_countP_le_one {α : Type} {test : α → Bool} {xs : List α}
    (h : xs.countP test ≤ 1) : xs.Pairwise fun a b => ¬ (test a = true ∧ test b = true) := by
  induction xs with
  | nil => exact .nil
  | cons x xs ih =>
    rw [List.countP_cons] at h
    refine List.Pairwise.cons ?_ (ih (by omega))
    rintro b hb ⟨hx, hbtest⟩
    have hpos : 0 < xs.countP test := List.countP_pos_iff.mpr ⟨b, hb, hbtest⟩
    rw [if_pos hx] at h
    omega

/-- An issue that a rule gives has a code of the rule, or reports its failure. -/
theorem code_of_mem_issuesOf {rule : Rule} {codes : List String} (h : (rule, codes) ∈ ruleCodes)
    {i : Issue} (hi : i ∈ issuesOf p rule.name (rule.findings t p settings)) :
    i.code ∈ codes ∨
      (i.code = failureCode ∧ (rule.findings t p settings).failure.isSome = true) := by
  rcases List.mem_append.mp hi with hi | hi
  · exact .inl (only_of_mem_ruleCodes h t p settings i hi)
  · rw [Option.mem_toList, Option.map_eq_some_iff] at hi
    obtain ⟨f, hf, rfl⟩ := hi
    exact .inr ⟨rfl, by rw [hf]; rfl⟩

/-- The issues of two rules without a code in common, one of which does not fail, have no ties. -/
theorem untied_issuesOf {a b : Rule × List String} (ha : a ∈ ruleCodes) (hb : b ∈ ruleCodes)
    (hcodes : List.Disjoint a.2 b.2)
    (hfail : ¬ ((a.1.findings t p settings).failure.isSome = true ∧
      (b.1.findings t p settings).failure.isSome = true)) :
    Untied (issuesOf p a.1.name (a.1.findings t p settings))
      (issuesOf p b.1.name (b.1.findings t p settings)) := by
  have hfailure : ∀ c ∈ ruleCodes, failureCode ∉ c.2 := by
    intro c hc hmem
    exact (List.nodup_cons.mp nodup_ruleCodes).1 (List.mem_flatMap.mpr ⟨c, hc, hmem⟩)
  intro i hi j hj hplace
  have hcode : i.code = j.code := (Issue.place_eq_iff.mp hplace).2.2
  -- either code may be one of its rule or that of a failure, and none of the pairs agree
  rcases code_of_mem_issuesOf ha hi with hia | ⟨hia, hafail⟩
  · rcases code_of_mem_issuesOf hb hj with hjb | ⟨hjb, -⟩
    · exact hcodes hia (hcode ▸ hjb)
    · exact hfailure a ha (hjb ▸ hcode ▸ hia)
  · rcases code_of_mem_issuesOf hb hj with hjb | ⟨-, hbfail⟩
    · exact hfailure b hb (hia ▸ hcode ▸ hjb)
    · exact hfail ⟨hafail, hbfail⟩

/-- The rules of a full audit have no ties between them when at most one of them fails. -/
theorem pairwise_untied_battery
    (hfail : battery.countP (fun rule => (rule.findings t p settings).failure.isSome) ≤ 1) :
    battery.Pairwise fun a b =>
      Untied (issuesOf p a.name (a.findings t p settings))
        (issuesOf p b.name (b.findings t p settings)) := by
  have hcodes : ruleCodes.Pairwise fun a b => List.Disjoint a.2 b.2 :=
    (List.nodup_flatMap.mp (List.nodup_cons.mp nodup_ruleCodes).2).2
  have hsingle := pairwise_of_countP_le_one hfail
  rw [← map_fst_ruleCodes, List.pairwise_map] at hsingle ⊢
  exact (hcodes.and hsingle).imp_of_mem fun ha hb h => untied_issuesOf ha hb h.1 h.2

end Battery

/-- The order of rules does not matter. Where at most one rule of a full audit fails, running its
rules in any order gives the same issues in the same places, the same status, the same exit code
and the same counts as running them in the usual order. -/
theorem run_perm (t : FileTree) (settings : AuditSettings) (p : Package) {rules : List Rule}
    (hperm : rules.Perm battery)
    (hfail : battery.countP (fun rule => (rule.findings t p settings).failure.isSome) ≤ 1) :
    (run t settings rules p).issues = (runAll t settings p).issues ∧
      (run t settings rules p).status = (runAll t settings p).status ∧
      (run t settings rules p).exitCode = (runAll t settings p).exitCode ∧
      ∀ name, (run t settings rules p).counters.lookup name =
        (runAll t settings p).counters.lookup name := by
  have hissues : (run t settings rules p).issues = (runAll t settings p).issues := by
    rw [runAll, run_eq, run_eq]
    exact (sort_flatMap_perm hperm.symm (pairwise_untied_battery hfail)).symm
  -- status and exit code are determined by the issues
  have hstatus : (run t settings rules p).status = (runAll t settings p).status := by
    rw [consistent_run t settings rules p, hissues, runAll, ← consistent_run t settings battery p]
  have hwarnings :
      (run t settings rules p).failOnWarnings = (runAll t settings p).failOnWarnings := by
    rw [runAll, run_eq, run_eq]
  refine ⟨hissues, hstatus, ?_, fun name => ?_⟩
  · rw [Report.exitCode, Report.exitCode, hstatus, hwarnings]
  · -- counts are added up, and sums do not depend on the order
    rw [runAll, run_eq, run_eq]
    apply Counters.lookup_addAll_perm
    exact (hperm.flatMap_right _).append_left _

/-- A directory with a schema file that holds a date which does not exist. -/
def datedTree : FileTree :=
  ⟨[(["pkg"], .directory), (["pkg", "schema.yaml"], .file "date: 2024-02-30".toUTF8)]⟩

/-- A package without a manifest, with a toolset whose schema is the file of `datedTree`. -/
def datedPackage : Package where
  root := ⟨.root, ["pkg"]⟩
  hasAppYaml := false
  hasAppJson := false
  document := none
  manifest := none
  fieldIssues := []
  files := [⟨.root, ["pkg", "schema.yaml"]⟩]
  directories := []
  topLevelFiles := ["schema.yaml"]
  topLevelDirs := []
  agents := []
  toolsets :=
    [{ entity :=
        { name := "hotels"
          dir := ⟨.root, ["pkg", "toolsets", "hotels"]⟩
          manifestPath := ⟨.root, ["pkg", "toolsets", "hotels", "hotels.json"]⟩ }
       schemaDir := ⟨.root, ["pkg", "toolsets", "hotels", "open_api_toolset"]⟩
       detectedSchema := some ⟨.root, ["pkg", "schema.yaml"]⟩ }]
  evaluations := []
  scriptTools := []
  instructions := []
  guardrailDirs := []
  environment := none
  inventory := Inventory.build [] [] []

set_option maxRecDepth 10000 in
/-- One rule fails on `datedPackage`, and the rules report the same when they run backwards. -/
theorem run_perm_datedPackage :
    battery.reverse.Perm battery ∧
      battery.countP (fun rule => (rule.findings datedTree datedPackage {}).failure.isSome) = 1 ∧
      (run datedTree {} battery.reverse datedPackage).issues =
        (runAll datedTree {} datedPackage).issues ∧
      (runAll datedTree {} datedPackage).issues.map Issue.code =
        ["CES_MANIFEST_MISSING", "CES_VALIDATOR_RUNTIME_ERROR"] := by
  have hperm : battery.reverse.Perm battery := List.reverse_perm battery
  have hfail : battery.countP
      (fun rule => (rule.findings datedTree datedPackage {}).failure.isSome) = 1 := by
    decide +kernel
  have hissues := (run_perm datedTree {} datedPackage hperm hfail.le).1
  exact ⟨hperm, hfail, hissues, by decide +kernel⟩

end AgentPackage.Audit
