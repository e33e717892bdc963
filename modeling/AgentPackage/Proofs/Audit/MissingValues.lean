import AgentPackage.Proofs.Audit.InstructionFiles
import AgentPackage.Proofs.Audit.RootAgent
import AgentPackage.Proofs.Manifest.Texts

/-!
# Missing values

The manifest of a package has to name a root agent, and that of an agent an instruction. A value that
is no string was dropped and reported when the manifest was loaded, and is not to be reported as
missing as well. Whether it was dropped is told by the key that the issue names: an instruction has
one spelling, a root agent two, of which only the first is looked for.

## Main definitions

* `Rule.ReportsMissing`: a blank value is reported as missing, and one that was dropped is not.

## Main results

* `Rule.reportsMissing_agentFindings`: what is found about the instruction of an agent;
* `Rule.mistyped_not_missing`: what is reported about the root agent and the instructions of a package;
* `Rule.other_spelling_missing`: a value that is reported as mistyped and as missing.
-/

namespace AgentPackage

open Findings FileTree Index Manifest

namespace Rule

/-- Some issues tell that a value is missing. One that was dropped is not told, one that is blank is
told once as long as it is looked at, and no other is told. -/
structure ReportsMissing (lookedAt dropped : Prop) (value : Option String)
    (missing : List Issue) : Prop where
  /-- A value that was dropped is not missing. -/
  of_dropped : dropped → missing = []
  /-- A value that is blank or not there is missing. -/
  of_blank : lookedAt → ¬ dropped → Text.isAllBlank (value.getD "") = true → missing.length = 1
  /-- A value that is not blank is not missing. -/
  of_text : Text.isAllBlank (value.getD "") = false → missing = []

variable {t t₀ : FileTree} {p : Package}

/-- A blank value is reported, unless an issue of the manifest names its key. -/
theorem reportsMissing_ite {value : Option String} {issues : List FieldIssue} {key code : String}
    {message : String} {path : Path} {line : Option ℕ} {other : Findings} {test : Issue → Bool}
    (hother : other.Only fun i => test i = false)
    (hmissing : test ⟨code, message, .error, path.text, line.map Int.ofNat⟩ = true) :
    ReportsMissing True (∃ i ∈ issues, i.field = key) value
      ((if Text.isAllBlank (value.getD "") then
        when (!issues.any fun i => i.field == key) (error code message path line)
        else other).issues.filter test) := by
  have hdropped : (issues.any fun i => i.field == key) = true ↔ ∃ i ∈ issues, i.field = key := by
    simp [List.any_eq_true]
  cases hblank : Text.isAllBlank (value.getD "") with
  | false =>
    have hnone : other.issues.filter test = [] := filter_issues_eq_nil hother
    exact ⟨fun _ => hnone, fun _ _ h => Bool.noConfusion (hblank.symm.trans h), fun _ => hnone⟩
  | true =>
    rw [if_pos rfl]
    refine ⟨fun h => ?_, fun _ h _ => ?_, fun h => Bool.noConfusion (hblank.symm.trans h)⟩
    · rw [hdropped.mpr h]
      rfl
    · rw [Bool.eq_false_iff.mpr fun hany => h (hdropped.mp hany)]
      exact congrArg List.length (List.filter_cons_of_pos hmissing)

/-- What the rule about the root agent reports as missing. -/
theorem reportsMissing_rootAgent (hindexed : p.Indexed t₀) {m : AppManifest}
    (hm : p.manifest = some m) (t : FileTree) (settings : AuditSettings) :
    ReportsMissing True (∃ i ∈ p.fieldIssues, i.field = "rootAgent") m.rootAgent
      ((rootAgent.findings t p settings).issues.filter
        fun i => i.code == "CES_ROOT_AGENT_MISSING") := by
  obtain ⟨path, line, hfindings⟩ := rootAgent_eq hindexed hm t settings
  rw [hfindings]
  refine reportsMissing_ite ?_ rfl
  -- what is said about a name has other codes
  refine only_check fun hasDirectory => ?_
  dsimp only
  split
  · exact only_error rfl
  · exact only_check fun hasFile => only_when (only_error rfl)

/-- What is found to be missing of an agent with a manifest. -/
theorem reportsMissing_agentFindings {a : Entity AgentManifest} {m : AgentManifest}
    (hname : isNameable a.manifestPath = true) (hm : a.manifest = some m) (herror : a.error = none) :
    ReportsMissing True (∃ i ∈ a.fieldIssues, i.field = "instruction") m.instruction
      ((agentFindings t p a).issues.filter fun i =>
        i.code == "CES_AGENT_INSTRUCTION_MISSING" && i.file == a.manifestPath.text) := by
  -- only the findings about the instruction have the code
  have htoolsets : (agentToolsets t p a m).Only fun i =>
      (i.code == "CES_AGENT_INSTRUCTION_MISSING" && i.file == a.manifestPath.text) = false :=
    only_all fun _ _ => only_when (only_errorAt fun _ => rfl)
  have hchildren : (childAgents t p a m).Only fun i =>
      (i.code == "CES_AGENT_INSTRUCTION_MISSING" && i.file == a.manifestPath.text) = false :=
    only_all fun _ _ => only_when (only_errorAt fun _ => rfl)
  rw [agentFindings_eq hm herror, filter_append_left htoolsets, filter_append_left hchildren,
    filter_append_right (failure_fieldErrors hname) (only_fieldErrors fun _ _ => rfl)]
  obtain ⟨line, hline⟩ := exists_lineContaining hname t "instruction"
  rw [agentInstruction, hline, check]
  refine reportsMissing_ite (only_append (only_when (only_error rfl)) ?_) (by simp)
  exact only_check fun _ => only_when (only_error rfl)

/-- What was looked at in one way is looked at in another. -/
theorem ReportsMissing.mono {lookedAt lookedAt' dropped : Prop} {value : Option String}
    {missing : List Issue} (h : ReportsMissing lookedAt dropped value missing)
    (hlookedAt : lookedAt' → lookedAt) : ReportsMissing lookedAt' dropped value missing :=
  ⟨h.of_dropped, fun hlook => h.of_blank (hlookedAt hlook), h.of_text⟩

/-- The rule about agents reports of an agent what is found about it, unless it ends in a failure
before. -/
theorem reportsMissing_agents (hindexed : p.Indexed t₀) (ht : t₀.WellFormed) (hroot : p.root.Proper)
    (habsolute : p.root.isAbsolute = true) {before after : List (Entity AgentManifest)}
    {a : Entity AgentManifest} (hsplit : p.agents = before ++ a :: after) {m : AgentManifest}
    (hm : a.manifest = some m) (t : FileTree) (settings : AuditSettings) :
    ReportsMissing (∀ b ∈ before, (agentFindings t p b).failure = none)
      (∃ i ∈ a.fieldIssues, i.field = "instruction") m.instruction
      ((agents.findings t p settings).issues.filter fun i =>
        i.code == "CES_AGENT_INSTRUCTION_MISSING" && i.file == a.manifestPath.text) := by
  have ha : a ∈ p.agents := by rw [hsplit]; simp
  obtain ⟨herror, _, _, _, hread, -⟩ :=
    loaded_of_manifest (hindexed.agentAt ht hroot ha).loads hm
  have hfound := reportsMissing_agentFindings (t := t) (p := p)
    (Document.isNameable_of_read hread) hm herror
  -- the other agents have other manifests
  have hnodup := hindexed.nodup_agent_manifests ht hroot habsolute
  rw [hsplit, List.map_append, List.map_cons, List.nodup_middle, ← List.map_append,
    List.nodup_cons] at hnodup
  obtain ⟨hothers, -⟩ := hnodup
  have hother : ∀ b ∈ before ++ after, (agentFindings t p b).Only fun i =>
      (i.code == "CES_AGENT_INSTRUCTION_MISSING" && i.file == a.manifestPath.text) = false := by
    intro b hb
    have hne : b.manifestPath.text ≠ a.manifestPath.text := fun heq =>
      hothers (List.mem_map.mpr ⟨b, hb, heq⟩)
    refine agentFindings_only.mono fun i hi => ?_
    rw [hi.2, beq_eq_false_iff_ne.mpr hne, Bool.and_false]
  have hall : (agents.findings t p settings) = all (before ++ a :: after) (agentFindings t p) :=
    congrArg (all · _) hsplit
  rw [hall]
  rcases filter_all hother with heq | ⟨hnot, hnil⟩
  · rw [heq]
    exact hfound.mono fun _ => trivial
  · rw [hnil]
    exact ⟨fun _ => rfl, fun hlook => absurd hlook hnot, fun _ => rfl⟩

/-- What is reported as missing, and what is loaded from the values. Of the root agent the string that
the manifest gives counts, and the error is reported if it is blank, unless a value was dropped under
the first spelling; what was dropped under the second spelling alone does not keep it from being
reported. The instruction of an agent is reported if it is blank, unless it was dropped, as long as
the rule gets to the agent. The package was built from a tree `t₀`, which may have changed since into
`t`. -/
theorem mistyped_not_missing (ht : t₀.WellFormed) {cwd path : Path} (hcwd : cwd.Proper)
    (hpath : path.Proper) (hp : Package.build t₀ cwd path = .ok p) (t : FileTree)
    (settings : AuditSettings) :
    (∀ m, p.manifest = some m → ∃ fields text, p.document = some (.record fields text) ∧
      ReadsText Manifest.rootAgent fields m.rootAgent p.fieldIssues ∧
      ReportsMissing True (∃ i ∈ p.fieldIssues, i.field = "rootAgent") m.rootAgent
        ((rootAgent.findings t p settings).issues.filter
          fun i => i.code == "CES_ROOT_AGENT_MISSING")) ∧
    ∀ before a after, p.agents = before ++ a :: after → ∀ m, a.manifest = some m →
      ∃ fields text, Document.read t₀ .json a.manifestPath = .ok (.record fields text) ∧
        ReadsText Manifest.instruction fields m.instruction a.fieldIssues ∧
        ReportsMissing (∀ b ∈ before, (agentFindings t p b).failure = none)
          (∃ i ∈ a.fieldIssues, i.field = "instruction") m.instruction
          ((agents.findings t p settings).issues.filter fun i =>
            i.code == "CES_AGENT_INSTRUCTION_MISSING" && i.file == a.manifestPath.text) := by
  obtain ⟨hindexed, ⟨hroot, habsolute⟩, -⟩ := Package.indexed_of_build hcwd hpath hp
  constructor
  · intro m hm
    obtain ⟨file, hfile⟩ := hindexed.exists_manifestPath hm
    have happ := hindexed.app
    rw [hfile] at happ
    obtain ⟨fields, text, hdocument, hload⟩ := exists_of_appPart_manifest happ hm
    obtain ⟨clean, rfl, hreads⟩ := readsText_of_load (by decide +kernel) hload
      (List.mem_cons_of_mem _ List.mem_cons_self) rfl
    exact ⟨fields, text, hdocument, hreads, reportsMissing_rootAgent hindexed hm t settings⟩
  · intro before a after hsplit m hm
    have ha : a ∈ p.agents := by rw [hsplit]; simp
    obtain ⟨-, fields, text, manifest, hread, hload, hmanifest⟩ :=
      loaded_of_manifest (hindexed.agentAt ht hroot ha).loads hm
    obtain rfl : manifest = m := Option.some.inj (hmanifest.symm.trans hm)
    obtain ⟨clean, rfl, hreads⟩ := readsText_of_load (by decide +kernel) hload
      (List.mem_cons_of_mem _ List.mem_cons_self) rfl
    exact ⟨fields, text, hread, hreads,
      reportsMissing_agents hindexed ht hroot habsolute hsplit hm t settings⟩

section Spellings

/-- A package with a number for its root agent, an agent with a number for its instruction and one
without an instruction. -/
def mistyped : FileTree :=
  ⟨[(["p"], .directory), (["p", "app.json"], .file "\x7b\"rootAgent\":5\x7d".toUTF8),
    (["p", "agents"], .directory), (["p", "agents", "clerk"], .directory),
    (["p", "agents", "clerk", "clerk.json"], .file "\x7b\"instruction\":7\x7d".toUTF8),
    (["p", "agents", "desk"], .directory),
    (["p", "agents", "desk", "desk.json"], .file "\x7b\x7d".toUTF8)]⟩

/-- A package with a number for its root agent, under the second spelling. -/
def mistypedOther : FileTree :=
  ⟨[(["p"], .directory), (["p", "app.json"], .file "\x7b\"root_agent\":5\x7d".toUTF8)]⟩

/-- The root of the packages. -/
def mistypedRoot : Path :=
  ⟨.root, ["p"]⟩

set_option maxRecDepth 10000 in
/-- In the first package only the instruction that is not there is reported as missing. -/
theorem mistyped_not_missing_desk :
    mistyped.WellFormed ∧ mistypedRoot.Proper ∧
      ∃ p clerk desk, Package.build mistyped mistypedRoot mistypedRoot = .ok p ∧
        p.agents = [clerk, desk] ∧ p.manifest.isSome = true ∧ clerk.manifest.isSome = true ∧
        desk.manifest.isSome = true ∧ (agentFindings mistyped p clerk).failure = none ∧
        (rootAgent.findings mistyped p {}).issues.filter
          (fun i => i.code == "CES_ROOT_AGENT_MISSING") = [] ∧
        ((agents.findings mistyped p {}).issues.filter fun i =>
          i.code == "CES_AGENT_INSTRUCTION_MISSING" && i.file == clerk.manifestPath.text) = [] ∧
        ((agents.findings mistyped p {}).issues.filter fun i =>
          i.code == "CES_AGENT_INSTRUCTION_MISSING" &&
            i.file == desk.manifestPath.text).length = 1 := by
  have ht : mistyped.WellFormed := by decide +kernel
  have hroot : mistypedRoot.Proper := by decide
  obtain ⟨p, hp, happ, hdropped, hlength, hissues, hagent⟩ : ∃ p,
      Package.build mistyped mistypedRoot mistypedRoot = .ok p ∧ p.manifest.isSome = true ∧
      (∃ i ∈ p.fieldIssues, i.field = "rootAgent") ∧ p.agents.length = 2 ∧
      p.agents.map (fun a => a.fieldIssues.map FieldIssue.field) = [["instruction"], []] ∧
      ∀ a ∈ p.agents, a.manifest.isSome = true ∧
        a.manifest.bind AgentManifest.instruction = none ∧
        (agentFindings mistyped p a).failure = none := by
    decide +kernel
  obtain ⟨clerk, desk, hagents⟩ := List.length_eq_two.mp hlength
  rw [hagents, List.map_cons, List.map_cons, List.cons.injEq, List.cons.injEq] at hissues
  obtain ⟨hclerk, hdesk, -⟩ := hissues
  obtain ⟨hloadedClerk, -, hendClerk⟩ := hagent clerk (by simp [hagents])
  obtain ⟨hloadedDesk, hnoneDesk, -⟩ := hagent desk (by simp [hagents])
  obtain ⟨m, hm⟩ := Option.isSome_iff_exists.mp happ
  obtain ⟨mClerk, hmClerk⟩ := Option.isSome_iff_exists.mp hloadedClerk
  obtain ⟨mDesk, hmDesk⟩ := Option.isSome_iff_exists.mp hloadedDesk
  have hmissing := mistyped_not_missing ht hroot hroot hp mistyped {}
  obtain ⟨-, -, -, -, hrootAgent⟩ := hmissing.1 m hm
  obtain ⟨-, -, -, -, hreportedClerk⟩ := hmissing.2 [] clerk [desk] hagents mClerk hmClerk
  obtain ⟨-, -, -, -, hreportedDesk⟩ := hmissing.2 [clerk] desk [] hagents mDesk hmDesk
  refine ⟨ht, hroot, p, clerk, desk, hp, hagents, happ, hloadedClerk, hloadedDesk, hendClerk,
    hrootAgent.of_dropped hdropped, hreportedClerk.of_dropped ?_, hreportedDesk.of_blank ?_ ?_ ?_⟩
  · obtain ⟨i, hi, hfield⟩ := List.mem_map.mp (hclerk ▸ List.mem_singleton_self "instruction")
    exact ⟨i, hi, hfield⟩
  · exact fun b hb => List.mem_singleton.mp hb ▸ hendClerk
  · rintro ⟨i, hi, -⟩
    rw [List.map_eq_nil_iff.mp hdesk] at hi
    cases hi
  · rw [hmDesk, Option.bind_some] at hnoneDesk
    rw [hnoneDesk]
    rfl

set_option maxRecDepth 10000 in
/-- The value under the second spelling is reported as mistyped, and as missing as well. -/
theorem other_spelling_missing :
    ∃ p, Package.build mistypedOther mistypedRoot mistypedRoot = .ok p ∧
      p.fieldIssues.map FieldIssue.field = ["root_agent"] ∧
      (rootAgent.findings mistypedOther p {}).issues.map Issue.code = ["CES_ROOT_AGENT_MISSING"] := by
  decide +kernel

end Spellings

end Rule

end AgentPackage
