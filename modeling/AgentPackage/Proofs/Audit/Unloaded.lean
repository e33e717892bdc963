import AgentPackage.Proofs.Audit.EntityKinds
import AgentPackage.Proofs.Audit.Instructions
import AgentPackage.Proofs.Audit.Report
import AgentPackage.Proofs.Package.Agents
import AgentPackage.Proofs.Text.Occurrence

/-!
# Entities without a manifest

A directory that stands for an agent, a toolset or an evaluation has a manifest, or there is a
reason for which it has none. The rule about the entities of its kind reports the reason, once.
Other rules get to the file only where another manifest leads there, and give the reason again
then: as the schema of a toolset, as a guardrail, or as the manifest of the root agent.

## Main definitions

* `Issue.gives`: the issue is about a file and gives a reason;
* `Package.Repeats`: another manifest leads to a file, which is reported with a code;
* `Audit.told`: the errors that are about a file and give a reason.

## Main results

* `Rule.toldOf_of_mem_battery`: what a rule says of a file of which the manifest is not loaded;
* `Audit.filter_told`: the rule about the entities reports the reason once;
* `Audit.unloaded_reported`: no reason is lost, and none is given again but for another manifest;
* `Audit.unloaded_scriptTool`: the script tools, which have no rule;
* `Audit.unloaded_told_twice`: a reason that is given again.
-/

namespace AgentPackage

open Findings Index FileTree

/-- The issue is about the file, and its message gives the reason. -/
def Issue.gives (file : Path) (reason : String) (i : Issue) : Bool :=
  i.file == file.text && Text.occursIn reason.toList i.message.toList

/-- Another manifest leads to the file, about which a rule then reports an issue with the code. -/
inductive Package.Repeats (t : FileTree) (p : Package) (file : Path) (reason : String) :
    String → Prop where
  /-- A toolset has its schema in the file. -/
  | schema {s : Toolset} (hs : s ∈ p.toolsets) (hfile : s.ResolvesTo t p file) :
      Repeats t p file reason "CES_OPENAPI_PARSE_ERROR"
  /-- The manifest of the package refers to a guardrail in the file. -/
  | guardrail {m : AppManifest} {reference code : String} (hm : p.manifest = some m)
      (hreference : reference ∈ m.guardrails.getD [])
      (hfile : Guardrail.resolve t p reference = .ok (some file))
      (hcode : code ∈ Rule.guardrailManifestCodes) : Repeats t p file reason code
  /-- The manifest of the root agent, whose name holds the text, would be in the file. -/
  | rootAgent {m : AppManifest} {name : String} (hm : p.manifest = some m)
      (hname : m.rootAgent = some name) (hfile : p.rootAgentPlace name = file)
      (hreason : reason.toList <:+:
        ("rootAgent manifest missing at agents/" ++ name ++ "/" ++ name ++ ".json").toList) :
      Repeats t p file reason "CES_ROOT_AGENT_MANIFEST_MISSING"

variable {t t₀ : FileTree} {p : Package} {settings : AuditSettings}

theorem Issue.gives_iff {i : Issue} {file : Path} {reason : String} :
    i.gives file reason = true ↔ i.file = file.text ∧ reason.toList <:+: i.message.toList := by
  rw [Issue.gives, Bool.and_eq_true, beq_iff_eq, Text.occursIn_iff]

namespace Rule

theorem environmentFile_inRoot (h : p.Indexed t₀) :
    (environmentFile.findings t p settings).Only p.InRoot := by
  exact environmentFile_about.mono fun i ⟨_, e, he, hfile⟩ =>
    ⟨e.path, h.environment_isEntryOf he, hfile⟩

/-- What is reported of instructions is about their files. -/
theorem instructions_files :
    (instructions.findings t p settings).Only fun x => ∃ i ∈ p.instructions, x.file = i.path.text :=
  only_all fun i hi => instructionFindings_about.2.mono fun _ hx => ⟨i, hi, hx⟩

/-- What is said of a file of which the manifest is not loaded: if an error gives the reason, it is
that of the rule about the entities in the folder, or another manifest leads to the file. -/
def ToldOf (t : FileTree) (p : Package) (folder name reason : String) (i : Issue) : Prop :=
  i.severity = .error → i.gives (manifestPlace p.root folder name) reason = true →
    (∃ k : EntityKind, k.folder = folder ∧ i.code = k.invalidCode) ∨
      p.Repeats t (manifestPlace p.root folder name) reason i.code

variable {folder kind name reason : String} {i : Issue}

section Told

variable (hindexed : p.Indexed t₀) (ht : t₀.WellFormed) (hroot : p.root.Proper)
  (habsolute : p.root.isAbsolute = true) (hfolder : Path.IsName folder)
  (h : p.Unloaded t₀ folder kind name reason)

include hroot habsolute hfolder h

/-- A path with proper names is that of the manifest if it has the same text. -/
theorem eq_manifestPlace {path : Path} (hpath : path.Proper) (habs : path.isAbsolute = true)
    (hfile : i.file = path.text)
    (hgives : i.gives (manifestPlace p.root folder name) reason = true) :
    path = manifestPlace p.root folder name :=
  eq_manifestPlace_of_text hroot habsolute hfolder h.isFileName hpath habs
    (hfile.symm.trans (Issue.gives_iff.mp hgives).1)

/-- A file in the root is not the manifest of an entity. -/
theorem toldOf_of_inRoot (hi : p.InRoot i) : ToldOf t p folder name reason i := by
  intro _ hgives
  obtain ⟨path, hentry, hfile⟩ := hi
  have heq := eq_manifestPlace hroot habsolute hfolder h (hentry.proper hroot)
    (hentry.isAbsolute habsolute) hfile hgives
  obtain ⟨n, -, rfl⟩ := hentry
  have hlength := congrArg (fun path : Path => path.names.length) heq
  simp [manifestPlace, below, Path.entry] at hlength

theorem toldOf_rootAgent :
    (rootAgent.findings t p settings).Only (ToldOf t p folder name reason) := by
  intro i hi
  rcases (rootAgent_about i hi).2 with hinRoot | ⟨m, agent, hm, hagent, rfl⟩
  · exact toldOf_of_inRoot hroot habsolute hfolder h hinRoot
  · intro _ hgives
    have hagents : (p.root.entry "agents").Proper := Path.entry_proper hroot (by decide)
    have hproper : (p.rootAgentPlace agent).Proper :=
      Path.child_proper (Path.child_proper hagents _) _
    have hfile := eq_manifestPlace hroot habsolute hfolder h hproper
      (Path.join_isAbsolute (Path.join_isAbsolute habsolute)) rfl hgives
    exact .inr (.rootAgent hm hagent hfile (Issue.gives_iff.mp hgives).2)

theorem toldOf_guardrailReferences :
    (guardrailReferences.findings t p settings).Only (ToldOf t p folder name reason) := by
  intro i hi
  rcases (guardrailReferences_about i hi).2 with
    hinRoot | ⟨m, reference, file, hm, hreference, hfound, hfile, hcode⟩
  · exact toldOf_of_inRoot hroot habsolute hfolder h hinRoot
  · intro herror hgives
    obtain ⟨hproper, habs⟩ := Guardrail.candidates_proper hroot habsolute
      (Except.mem_of_findM?_eq_ok hfound)
    have heq := eq_manifestPlace hroot habsolute hfolder h hproper habs hfile hgives
    exact .inr (.guardrail hm hreference (heq ▸ hfound) (hcode herror))

include hindexed ht

theorem toldOf_instructions :
    (instructions.findings t p settings).Only (ToldOf t p folder name reason) := by
  intro x hx
  obtain ⟨i, hi, hfile⟩ := instructions_files x hx
  rcases mem_instructions hindexed.instructions hi with ⟨a, ha, -, hpath⟩ | ⟨-, hpath⟩
  · intro _ hgives
    rw [hpath] at hfile
    -- the file of an instruction has another extension
    have hname : Path.IsName instructionName := by decide
    obtain ⟨hproper, habs⟩ := hindexed.agentFile_proper ht hroot habsolute ha hname
    have heq := eq_manifestPlace hroot habsolute hfolder h hproper habs hfile hgives
    have hlast := congrArg (fun path : Path => path.name.toList.getLast?) heq
    simp [manifestPlace, below, Path.entry, Path.name, instructionName] at hlast
  · exact toldOf_of_inRoot hroot habsolute hfolder h ⟨_, ⟨_, by decide, hpath⟩, hfile⟩

/-- If a schema is in the file of the manifest, it is reported that it cannot be read. -/
theorem toldOf_schema {s : Toolset} (hs : s ∈ p.toolsets) {path : Path}
    (hpath : s.ResolvesTo t p path) : (schemaFile t path).Only (ToldOf t p folder name reason) := by
  intro i hi _ hgives
  obtain ⟨hfile, hcode⟩ := schemaFile_about i hi
  have hproper : path.Proper ∧ path.isAbsolute = true := by
    cases hpath with
    | declared _ _ =>
      exact ⟨Declared.resolve_proper hroot _, Declared.resolve_isAbsolute habsolute _⟩
    | detected _ hdetected =>
      exact (hindexed.toolset_proper ht.proper hroot habsolute hs).2 _ hdetected
  obtain rfl := eq_manifestPlace hroot habsolute hfolder h hproper.1 hproper.2 hfile hgives
  rcases hcode with hcode | hmessage
  · exact .inr (hcode ▸ .schema hs hpath)
  · -- the other messages have none of the characters of a reason
    obtain ⟨c, hc, hmark⟩ := h.fails.exists_mark
    have hmem := (Issue.gives_iff.mp hgives).2.subset hc
    have hnone : ∀ m ∈ schemaMessages, ∀ c ∈ reasonMarks, c ∉ m.2.toList := by
      simp [schemaMessages, reasonMarks]
    exact absurd hmem (hnone _ hmessage c hmark)

variable (hkind : ∀ k : EntityKind, k.folder = folder → k.label = kind)

include hkind

/-- What is found about an entity is told of it, or of the schema of a toolset. -/
theorem toldOf_check {k : EntityKind} {x : Entity Unit × Findings} (hx : x ∈ k.checks t p)
    (hfailure : x.2.failure = none) : x.2.Only (ToldOf t p folder name reason) := by
  intro i hi
  rcases EntityKind.check_files hx hfailure i hi with hfile | ⟨s, hs, path, hpath, hmem⟩
  · intro _ hgives
    have hat := EntityKind.entityAt hindexed ht hroot
      (EntityKind.map_fst_checks ▸ List.mem_map_of_mem hx)
    obtain ⟨hproper, habs⟩ :=
      manifestPlace_proper hroot habsolute k.isName_folder hat.isFileName
    rw [← hat.manifestPath] at hproper habs
    have heq := eq_manifestPlace hroot habsolute hfolder h hproper habs hfile hgives
    obtain ⟨hk, -⟩ := manifestPlace_injective (hat.manifestPath.symm.trans heq)
    have hreason := (hat.error reason).mpr (by rw [heq, hkind k hk]; exact h.fails)
    rw [EntityKind.check_unloaded hindexed ht hroot hx hreason] at hi
    exact .inl ⟨k, hk, by rw [List.mem_singleton.mp hi]⟩
  · exact toldOf_schema hindexed ht hroot habsolute hfolder h hs hpath i hmem

theorem toldOf_entities (k : EntityKind)
    (hfailure : (k.rule.findings t p settings).failure = none) :
    (k.rule.findings t p settings).Only (ToldOf t p folder name reason) := by
  rw [k.findings_eq] at hfailure ⊢
  exact only_all fun x hx => toldOf_check hindexed ht hroot habsolute hfolder h hkind hx
    (failure_all_eq_none.mp hfailure x hx)

/-- What a rule says of a file of which the manifest is not loaded. -/
theorem toldOf_of_mem_battery {rule : Rule} (hrule : rule ∈ Audit.battery)
    (hfailure : (rule.findings t p settings).failure = none) :
    (rule.findings t p settings).Only (ToldOf t p folder name reason) := by
  have hinRoot : ∀ i, p.InRoot i → ToldOf t p folder name reason i := fun _ =>
    toldOf_of_inRoot hroot habsolute hfolder h
  have hentities : ∀ k : EntityKind, (k.rule.findings t p settings).failure = none →
      (k.rule.findings t p settings).Only (ToldOf t p folder name reason) :=
    toldOf_entities hindexed ht hroot habsolute hfolder h hkind
  simp only [Audit.battery, List.mem_cons, List.not_mem_nil, or_false] at hrule
  rcases hrule with rfl | rfl | rfl | rfl | rfl | rfl | rfl | rfl | rfl | rfl | rfl
  · exact rootManifest_about.mono fun i hi => hinRoot i hi.2
  · exact toldOf_rootAgent hroot habsolute hfolder h
  · exact globalInstruction_about.mono fun i hi => hinRoot i hi.2
  · exact toldOf_guardrailReferences hroot habsolute hfolder h
  · exact unsupportedDirectories_about.mono fun i hi => hinRoot i hi.2
  · exact nestingDepth_about.mono fun i hi herror => by cases hi.2.symm.trans herror
  · exact hentities .agent hfailure
  · exact hentities .toolset hfailure
  · exact hentities .evaluation hfailure
  · exact toldOf_instructions hindexed ht hroot habsolute hfolder h
  · exact (environmentFile_inRoot hindexed).mono hinRoot

end Told

end Rule

namespace Audit

open Rule

/-- The errors that are about a file and give a reason. -/
def told (t : FileTree) (settings : AuditSettings) (p : Package) (file : Path) (reason : String) :
    List Issue :=
  (runAll t settings p).errors.filter (Issue.gives file reason)

variable {name reason : String}

section Run

variable (hfailure : ∀ rule ∈ battery, (rule.findings t p settings).failure = none)

include hfailure

/-- Where no rule fails the issues are those of the rules. -/
theorem reported_eq_of_failure :
    reported t settings battery p =
      battery.flatMap fun rule => (rule.findings t p settings).issues := by
  refine List.flatMap_congr fun rule hrule => ?_
  simp [issuesOf, hfailure rule hrule]

theorem exists_rule_of_mem_told {file : Path} {i : Issue} (hi : i ∈ told t settings p file reason) :
    i.severity = .error ∧ i.gives file reason = true ∧
      ∃ rule ∈ battery, i ∈ (rule.findings t p settings).issues := by
  obtain ⟨herrors, hgives⟩ := List.mem_filter.mp hi
  obtain ⟨hissues, herror⟩ := List.mem_filter.mp herrors
  rw [runAll, run_eq, (Issue.isStableSort_sort _).perm.mem_iff,
    reported_eq_of_failure hfailure] at hissues
  obtain ⟨rule, hrule, hmem⟩ := List.mem_flatMap.mp hissues
  exact ⟨beq_iff_eq.mp herror, hgives, rule, hrule, hmem⟩

end Run

section Own

variable {k : EntityKind}

/-- The rule about the entities has the code of the error about one without a manifest. -/
theorem exists_mem_ruleCodes (k : EntityKind) :
    ∃ codes, (k.rule, codes) ∈ ruleCodes ∧ k.invalidCode ∈ codes := by
  cases k with
  | agent => exact ⟨agentCodes, by simp [ruleCodes, EntityKind.rule], by decide⟩
  | toolset => exact ⟨toolsetCodes, by simp [ruleCodes, EntityKind.rule], by decide⟩
  | evaluation => exact ⟨evaluationCodes, by simp [ruleCodes, EntityKind.rule], by decide⟩

theorem rule_mem_battery (k : EntityKind) : k.rule ∈ battery := by
  obtain ⟨codes, hmem, -⟩ := exists_mem_ruleCodes k
  rw [← map_fst_ruleCodes]
  exact List.mem_map_of_mem hmem

/-- No other rule reports that an entity has no manifest. -/
theorem only_other {rule : Rule} (hrule : rule ∈ battery) (hne : rule ≠ k.rule) :
    (rule.findings t p settings).Only fun i => i.code ≠ k.invalidCode := by
  rw [← map_fst_ruleCodes] at hrule
  obtain ⟨⟨_, codes⟩, hmem, rfl⟩ := List.mem_map.mp hrule
  obtain ⟨codes', hmem', hcode'⟩ := exists_mem_ruleCodes k
  refine (only_of_mem_ruleCodes hmem t p settings).mono fun i hi hcode => hne ?_
  exact congrArg Prod.fst (eq_of_code hmem hmem' (hcode ▸ hi) hcode')

/-- The message of the error about an entity without a manifest gives the reason. -/
theorem reason_infix_message (k : EntityKind) :
    reason.toList <:+: (k.message name reason).toList := by
  obtain ⟨front, hmessage⟩ : ∃ front, k.message name reason = front ++ reason := by
    cases k <;> exact ⟨_, rfl⟩
  rw [hmessage, String.toList_append]
  exact (List.suffix_append _ _).isInfix

/-- The error about an entity without a manifest. -/
def unloadedIssue (p : Package) (k : EntityKind) (name reason : String) : Issue :=
  ⟨k.invalidCode, k.message name reason, .error, (manifestPlace p.root k.folder name).text, some 1⟩

variable (hindexed : p.Indexed t₀) (ht : t₀.WellFormed) (hroot : p.root.Proper)
  (habsolute : p.root.isAbsolute = true)
  (hfailure : ∀ rule ∈ battery, (rule.findings t p settings).failure = none)
  (h : p.Unloaded t₀ k.folder k.label name reason)

include hindexed ht hroot habsolute hfailure h

/-- The rule about the entities reports the one without a manifest once. -/
theorem filter_rule :
    (k.rule.findings t p settings).issues.filter (fun i => i.severity == .error &&
        (i.gives (manifestPlace p.root k.folder name) reason && i.code == k.invalidCode)) =
      [unloadedIssue p k name reason] := by
  have hrule := hfailure k.rule (rule_mem_battery k)
  rw [k.findings_eq] at hrule ⊢
  obtain ⟨e, he, rfl, hreason⟩ := (EntityKind.unloaded_iff hindexed ht hroot).mp h
  have hpath := (EntityKind.entityAt hindexed ht hroot he).manifestPath
  have hnodup := EntityKind.nodup_manifests hindexed ht hroot habsolute (k := k)
  rw [← EntityKind.map_fst_checks (t := t)] at he hnodup
  obtain ⟨x, hx, rfl⟩ := List.mem_map.mp he
  rw [List.map_map] at hnodup
  rw [filter_all_of_nodup hrule hnodup hx fun y hy hne i hi => ?_]
  · rw [EntityKind.check_unloaded hindexed ht hroot hx hreason, hpath]
    refine List.filter_cons_of_pos ?_
    simp [Issue.gives_iff, reason_infix_message]
  · -- what is found about another entity has another file, or the code of a schema
    have hcodes : ∀ code ∈ "CES_OPENAPI_PARSE_ERROR" :: schemaMessages.map Prod.fst,
        code ≠ k.invalidCode := by
      cases k <;> decide
    dsimp only
    rw [Bool.and_eq_false_imp, Bool.and_eq_false_imp]
    intro _ hgives
    rw [beq_eq_false_iff_ne]
    rcases EntityKind.check_files hy (failure_all_eq_none.mp hrule y hy) i hi with
      hfile | ⟨s, -, path, -, hschema⟩
    · refine absurd ?_ hne
      exact hfile.symm.trans ((Issue.gives_iff.mp hgives).1.trans (congrArg Path.text hpath.symm))
    · refine hcodes _ ?_
      rcases (schemaFile_about i hschema).2 with hcode | hmessage
      · exact hcode ▸ List.mem_cons_self
      · exact List.mem_cons_of_mem _ (List.mem_map_of_mem hmessage)

/-- Among the errors that give the reason, one has the code of the kind. -/
theorem filter_told :
    (told t settings p (manifestPlace p.root k.folder name) reason).filter
        (fun i => i.code == k.invalidCode) = [unloadedIssue p k name reason] := by
  have hreported : (reported t settings battery p).filter (fun i => i.severity == .error &&
      (i.gives (manifestPlace p.root k.folder name) reason && i.code == k.invalidCode)) =
        [unloadedIssue p k name reason] := by
    rw [reported_eq_of_failure hfailure, List.filter_flatMap, List.flatMap_eq_of_nodup
      nodup_battery_name.of_map (rule_mem_battery k) fun rule hrule hne => ?_]
    · exact filter_rule hindexed ht hroot habsolute hfailure h
    · -- the other rules have other codes
      refine filter_issues_eq_nil ((only_other hrule hne).mono fun i hcode => ?_)
      rw [beq_eq_false_iff_ne.mpr hcode, Bool.and_false, Bool.and_false]
  -- sorting only moves issues
  have hperm := (Issue.isStableSort_sort (reported t settings battery p)).perm.filter fun i =>
    i.severity == .error &&
      (i.gives (manifestPlace p.root k.folder name) reason && i.code == k.invalidCode)
  rw [hreported, List.perm_singleton] at hperm
  rw [told, Report.errors, List.filter_filter, List.filter_filter, runAll, run_eq]
  refine Eq.trans (List.filter_congr fun i _ => ?_) hperm
  ac_rfl

end Own

/-- What is said of a file of which the manifest is not loaded, in a folder of any kind. -/
theorem told_of_unloaded {folder kind : String} (hindexed : p.Indexed t₀) (ht : t₀.WellFormed)
    (hroot : p.root.Proper) (habsolute : p.root.isAbsolute = true)
    (hfailure : ∀ rule ∈ battery, (rule.findings t p settings).failure = none)
    (hfolder : Path.IsName folder) (hkind : ∀ k : EntityKind, k.folder = folder → k.label = kind)
    (h : p.Unloaded t₀ folder kind name reason) {i : Issue}
    (hi : i ∈ told t settings p (manifestPlace p.root folder name) reason) :
    (∃ k : EntityKind, k.folder = folder ∧ i.code = k.invalidCode) ∨
      p.Repeats t (manifestPlace p.root folder name) reason i.code := by
  obtain ⟨herror, hgives, rule, hrule, hmem⟩ := exists_rule_of_mem_told hfailure hi
  exact toldOf_of_mem_battery hindexed ht hroot habsolute hfolder h hkind hrule
    (hfailure rule hrule) i hmem herror hgives

/-- An entity without a manifest is reported. For every directory in the folder for agents, toolsets
or evaluations whose manifest is missing, cannot be read, is not JSON or has another root than a
mapping, the entity has the text of the reason, and unless a rule fails one error about the file of
the manifest gives the text with the code of the kind. Any other error about the file that gives it
is there because another manifest leads to the file, so that it is the only one if none does. The
package was built from a tree `t₀`, which may have changed since into `t`. -/
theorem unloaded_reported (ht : t₀.WellFormed) {cwd path : Path} (hcwd : cwd.Proper)
    (hpath : path.Proper) (hp : Package.build t₀ cwd path = .ok p) (t : FileTree)
    (settings : AuditSettings)
    (hfailure : ∀ rule ∈ battery, (rule.findings t p settings).failure = none) (k : EntityKind)
    (h : p.Unloaded t₀ k.folder k.label name reason) :
    let file := manifestPlace p.root k.folder name
    (∃ e ∈ k.entities p, e.name = name ∧ e.manifestPath = file ∧ e.error = some reason) ∧
      (told t settings p file reason).filter (fun i => i.code == k.invalidCode) =
        [unloadedIssue p k name reason] ∧
      (∀ i ∈ told t settings p file reason,
        i.code = k.invalidCode ∨ p.Repeats t file reason i.code) ∧
      ((∀ code, ¬ p.Repeats t file reason code) →
        told t settings p file reason = [unloadedIssue p k name reason]) := by
  intro file
  obtain ⟨hindexed, ⟨hroot, habsolute⟩, -⟩ := Package.indexed_of_build hcwd hpath hp
  have hone := filter_told hindexed ht hroot habsolute hfailure h
  have hother : ∀ i ∈ told t settings p file reason,
      i.code = k.invalidCode ∨ p.Repeats t file reason i.code := by
    intro i hi
    have hkind : ∀ k' : EntityKind, k'.folder = k.folder → k'.label = k.label := fun k' hk' =>
      congrArg EntityKind.label (EntityKind.folder_injective hk')
    rcases told_of_unloaded hindexed ht hroot habsolute hfailure k.isName_folder hkind h hi with
      ⟨k', hk', hcode⟩ | hrepeats
    · exact .inl (EntityKind.folder_injective hk' ▸ hcode)
    · exact .inr hrepeats
  refine ⟨?_, hone, hother, fun hnone => ?_⟩
  · obtain ⟨e, he, rfl, hreason⟩ := (EntityKind.unloaded_iff hindexed ht hroot).mp h
    exact ⟨e, he, rfl, (EntityKind.entityAt hindexed ht hroot he).manifestPath, hreason⟩
  · -- all of them have the code of the kind
    refine Eq.trans (List.filter_eq_self.mpr fun i hi => ?_).symm hone
    exact beq_iff_eq.mpr ((hother i hi).resolve_right (hnone i.code))

/-- No rule reports a script tool without a manifest, although it has the text of the reason: an
error about the file of the manifest gives the text only if another manifest leads to the file. -/
theorem unloaded_scriptTool (ht : t₀.WellFormed) {cwd path : Path} (hcwd : cwd.Proper)
    (hpath : path.Proper) (hp : Package.build t₀ cwd path = .ok p) (t : FileTree)
    (settings : AuditSettings)
    (hfailure : ∀ rule ∈ battery, (rule.findings t p settings).failure = none)
    (h : p.Unloaded t₀ "tools" "script tool" name reason) :
    (∃ e ∈ p.scriptTools, e.name = name ∧ e.error = some reason) ∧
      ∀ i ∈ told t settings p (manifestPlace p.root "tools" name) reason,
        p.Repeats t (manifestPlace p.root "tools" name) reason i.code := by
  obtain ⟨hindexed, ⟨hroot, habsolute⟩, -⟩ := Package.indexed_of_build hcwd hpath hp
  have htools : (p.root.entry "tools").Proper := Path.entry_proper hroot (by decide)
  -- the kinds with a rule have other folders
  have hother : ∀ k : EntityKind, k.folder ≠ "tools" := by
    intro k
    cases k <;> decide
  constructor
  · obtain ⟨e, he, rfl⟩ :=
      hindexed.scriptToolEntities.exists_mem ht htools h.isFileName h.isDirectory
    have hat := hindexed.scriptToolEntities.entityAt ht htools he
    exact ⟨e, he, rfl, (hat.error reason).mpr (hat.manifestPath ▸ h.fails)⟩
  · intro i hi
    rcases told_of_unloaded hindexed ht hroot habsolute hfailure (by decide)
      (fun k hk => absurd hk (hother k)) h hi with ⟨k, hk, -⟩ | hrepeats
    · exact absurd hk (hother k)
    · exact hrepeats

section Orders

/-- A package with an agent whose manifest is missing, a toolset whose manifest is not JSON, and an
evaluation whose manifest is a list. -/
def unloadedTree : FileTree :=
  ⟨[(["p"], .directory), (["p", "app.json"], .file "\x7b\x7d".toUTF8),
    (["p", "agents"], .directory), (["p", "agents", "desk"], .directory),
    (["p", "toolsets"], .directory), (["p", "toolsets", "orders"], .directory),
    (["p", "toolsets", "orders", "orders.json"], .file "\x7b".toUTF8),
    (["p", "evaluations"], .directory), (["p", "evaluations", "tour"], .directory),
    (["p", "evaluations", "tour", "tour.json"], .file "[]".toUTF8)]⟩

/-- A package with a toolset whose manifest is not JSON, and one with its schema in that file. -/
def borrowedTree : FileTree :=
  ⟨[(["p"], .directory), (["p", "app.json"], .file "\x7b\x7d".toUTF8),
    (["p", "toolsets"], .directory), (["p", "toolsets", "books"], .directory),
    (["p", "toolsets", "books", "books.json"],
      .file ("\x7b\"openApiToolset\":\x7b\"openApiSchema\":" ++
        "\"toolsets/orders/orders.json\"\x7d\x7d").toUTF8),
    (["p", "toolsets", "orders"], .directory),
    (["p", "toolsets", "orders", "orders.json"], .file "\x7b".toUTF8)]⟩

/-- The root of the packages. -/
def unloadedRoot : Path :=
  ⟨.root, ["p"]⟩

/-- Why the manifest of the toolset is not loaded. -/
def ordersReason : String :=
  "Expecting property name enclosed in double quotes: line 1 column 2 (char 1)"

set_option maxRecDepth 10000 in
/-- In the first package each of the three is reported once. -/
theorem unloaded_reported_desk :
    unloadedTree.WellFormed ∧ unloadedRoot.Proper ∧
      ∃ p, Package.build unloadedTree unloadedRoot unloadedRoot = .ok p ∧
        (∀ rule ∈ battery, (rule.findings unloadedTree p {}).failure = none) ∧
        ∀ x ∈ [(EntityKind.agent, "desk", "Missing agent manifest file"),
            (EntityKind.toolset, "orders", ordersReason),
            (EntityKind.evaluation, "tour", "JSON root must be an object")],
          p.Unloaded unloadedTree x.1.folder x.1.label x.2.1 x.2.2 ∧
            told unloadedTree {} p (manifestPlace p.root x.1.folder x.2.1) x.2.2 =
              [unloadedIssue p x.1 x.2.1 x.2.2] := by
  have ht : unloadedTree.WellFormed := by decide +kernel
  have hroot : unloadedRoot.Proper := by decide
  obtain ⟨p, hp, hfailure, hentities, hschemas, hmanifest⟩ : ∃ p,
      Package.build unloadedTree unloadedRoot unloadedRoot = .ok p ∧
      (∀ rule ∈ battery, (rule.findings unloadedTree p {}).failure = none) ∧
      (∀ x ∈ [(EntityKind.agent, "desk", "Missing agent manifest file"),
            (EntityKind.toolset, "orders", ordersReason),
            (EntityKind.evaluation, "tour", "JSON root must be an object")],
        ∃ e ∈ x.1.entities p, e.name = x.2.1 ∧ e.error = some x.2.2) ∧
      (∀ s ∈ p.toolsets, schemaPath? p s = none) ∧
      ∀ m ∈ p.manifest, m.guardrails = none ∧ m.rootAgent = none := by
    decide +kernel
  obtain ⟨hindexed, ⟨hproper, -⟩, -⟩ := Package.indexed_of_build hroot hroot hp
  -- no other manifest leads anywhere
  have hnone : ∀ file reason code, ¬ p.Repeats unloadedTree file reason code := by
    intro file reason code hrepeats
    cases hrepeats with
    | schema hs hfile =>
      have hnone := hschemas _ hs
      cases hfile with
      | declared htext _ =>
        rw [schemaPath?, Toolset.declaredSchema?_eq_some_iff.mpr htext] at hnone
        cases hnone
      | detected hundeclared hpath =>
        rw [schemaPath?, Toolset.declaredSchema?_eq_none_iff.mpr hundeclared, hpath] at hnone
        cases hnone
    | guardrail hm hreference _ _ =>
      rw [(hmanifest _ hm).1] at hreference
      cases hreference
    | rootAgent hm hname _ _ => cases (hmanifest _ hm).2.symm.trans hname
  refine ⟨ht, hroot, p, hp, hfailure, fun x hx => ?_⟩
  have hunloaded := (EntityKind.unloaded_iff hindexed ht hproper).mpr (hentities x hx)
  obtain ⟨-, -, -, honly⟩ :=
    unloaded_reported ht hroot hroot hp unloadedTree {} hfailure x.1 hunloaded
  exact ⟨hunloaded, honly (hnone _ _)⟩

set_option maxRecDepth 10000 in
/-- In the second package the reason for which the toolset has no manifest is given twice: the file
is the schema of the other toolset as well. -/
theorem unloaded_told_twice :
    ∃ p, Package.build borrowedTree unloadedRoot unloadedRoot = .ok p ∧
      (∀ rule ∈ battery, (rule.findings borrowedTree p {}).failure = none) ∧
      p.Unloaded borrowedTree "toolsets" "toolset" "orders" ordersReason ∧
      (told borrowedTree {} p (manifestPlace p.root "toolsets" "orders") ordersReason).map
        Issue.code = ["CES_OPENAPI_PARSE_ERROR", "CES_TOOLSET_MANIFEST_INVALID"] := by
  have ht : borrowedTree.WellFormed := by decide +kernel
  have hroot : unloadedRoot.Proper := by decide
  obtain ⟨p, hp, hfailure, hentity, htold⟩ : ∃ p,
      Package.build borrowedTree unloadedRoot unloadedRoot = .ok p ∧
      (∀ rule ∈ battery, (rule.findings borrowedTree p {}).failure = none) ∧
      (∃ e ∈ EntityKind.toolset.entities p, e.name = "orders" ∧ e.error = some ordersReason) ∧
      (told borrowedTree {} p (manifestPlace p.root "toolsets" "orders") ordersReason).map
        Issue.code = ["CES_OPENAPI_PARSE_ERROR", "CES_TOOLSET_MANIFEST_INVALID"] := by
    decide +kernel
  obtain ⟨hindexed, ⟨hproper, -⟩, -⟩ := Package.indexed_of_build hroot hroot hp
  exact ⟨p, hp, hfailure, (EntityKind.unloaded_iff hindexed ht hproper).mpr hentity, htold⟩

end Orders

end Audit

end AgentPackage
