import AgentPackage.Proofs.Audit.Report
import AgentPackage.Proofs.Findings
import AgentPackage.Proofs.Package.Closed

/-!
# Soundness of a pass

A full audit that reports no error vouches for the package: it is closed. The rules leave much to
each other: one skips an entity without a manifest since another reports it, and a failing rule
stops half-way. So it is shown rule by rule what passing it means, and passing all of them is put
together with what indexing gives.

## Main results

* `errors_run_eq_nil_iff`: a run reports no error exactly when the package passes all of its rules;
* `closed_of_passes`: a model that passes all rules is closed;
* `closed_of_errors_eq_nil`: a package about which a full audit reports no error is closed.
-/

namespace AgentPackage

open Findings

namespace Rule

variable {t : FileTree} {p : Package} {settings : AuditSettings}

/-- What passing `rootManifest` means: there is a manifest file without an error or an issue. -/
theorem passes_rootManifest (h : (rootManifest.findings t p settings).Passes) :
    ∃ path, p.manifestPath? = some path ∧
      (∀ document, p.document = some document → document.error? = none) ∧ p.fieldIssues = [] := by
  simp only [rootManifest] at h
  split at h
  · exact absurd h not_passes_error
  · rename_i path hpath
    rw [passes_append] at h
    obtain ⟨-, h⟩ := h
    -- what is left is about the content of the file
    unfold manifestContent at h
    split at h
    · exact absurd h not_passes_error
    · split at h
      · exact absurd h not_passes_error
      · rename_i herror
        refine ⟨path, hpath, fun document hdocument => ?_, passes_fieldErrors.mp h⟩
        rwa [hdocument] at herror

/-- What passing `guardrailReferences` means: each guardrail that is named has a manifest. -/
theorem passes_guardrailReferences (h : (guardrailReferences.findings t p settings).Passes)
    {manifest : AppManifest} (hmanifest : p.manifest = some manifest) {path : Path}
    (hpath : p.manifestPath? = some path) {reference : String}
    (hreference : reference ∈ manifest.guardrails.getD [])
    (hblank : Text.isAllBlank reference = false) :
    ∃ file fields text, Guardrail.resolve t p reference = .ok (some file) ∧
      Document.read t .json file = .ok (.record fields text) := by
  simp only [guardrailReferences, hmanifest, hpath, passes_all] at h
  have href := h reference hreference
  unfold guardrailReference at href
  rw [passes_when, passes_check] at href
  obtain ⟨found, hfound, hrest⟩ := href (by rw [hblank]; rfl)
  -- a reference that is found nowhere would be an error, and so would any other document
  cases found with
  | none => exact absurd hrest not_passes_errorAt
  | some file =>
    obtain ⟨document, hread, hdocument⟩ := passes_check.mp hrest
    unfold guardrailManifest at hdocument
    cases document with
    | record fields text => exact ⟨file, fields, text, hfound, hread⟩
    | _ => exact absurd hdocument not_passes_error

section Agents

variable {agent : Entity AgentManifest} {manifest : AgentManifest}

/-- What passing the findings about an agent means: its manifest has no error and no issue, and the
agents and toolsets that it names exist. -/
theorem passes_agentFindings (h : (agentFindings t p agent).Passes) :
    agent.error = none ∧
      ∀ manifest, agent.manifest = some manifest →
        agent.fieldIssues = [] ∧
          (∀ child ∈ manifest.childAgents.getD [], Text.isAllBlank child = false →
            p.HasAgent child) ∧
          ∀ toolset, manifest.RefersTo toolset → toolset ≠ "" → p.HasToolset toolset := by
  unfold agentFindings at h
  rw [passes_append] at h
  obtain ⟨herror, h⟩ := h
  constructor
  · cases hreason : agent.error with
    | none => rfl
    | some reason =>
      rw [hreason] at herror
      exact absurd herror not_passes_error
  · intro manifest hmanifest
    rw [hmanifest] at h
    simp only [passes_append] at h
    -- what is found about the instruction does not matter here
    obtain ⟨⟨⟨hfields, -⟩, hchildren⟩, htoolsets⟩ := h
    refine ⟨passes_fieldErrors.mp hfields, fun child hchild hblank => ?_,
      fun toolset htoolset hne => ?_⟩
    · have hfound := passes_all.mp hchildren child hchild
      rw [hblank, Bool.not_false, Bool.true_and] at hfound
      exact Package.contains_agentNames.mp (of_passes_when_not not_passes_errorAt hfound)
    · have hlooked := AgentManifest.mem_toolsetNames.mpr ⟨htoolset, hne⟩
      have hfound := passes_all.mp htoolsets toolset hlooked
      exact Package.contains_toolsetNames.mp (of_passes_when_not not_passes_errorAt hfound)

end Agents

/-- What passing the findings about a toolset means: its manifest has no error and no issue. -/
theorem passes_toolsetFindings {toolset : Toolset} (h : (toolsetFindings t p toolset).Passes) :
    toolset.entity.error = none ∧ toolset.entity.fieldIssues = [] := by
  unfold toolsetFindings at h
  split at h
  · exact absurd h not_passes_error
  · rename_i herror
    rw [passes_append] at h
    exact ⟨herror, passes_fieldErrors.mp h.1⟩

/-- What passing the findings about an evaluation means: its manifest has no error and no issue,
and the calls that it expects are those of direct tools. -/
theorem passes_evaluationFindings {evaluation : Entity EvaluationManifest}
    (h : (evaluationFindings t p evaluation).Passes) :
    evaluation.error = none ∧
      ∀ manifest, evaluation.manifest = some manifest →
        evaluation.fieldIssues = [] ∧
          ∀ tool, manifest.Expects tool →
            p.inventory.isOperation tool = false ∧
              (p.directTools ≠ [] → tool ∈ p.directTools) := by
  unfold evaluationFindings at h
  split at h
  · exact absurd h not_passes_error
  · rename_i herror hnone
    refine ⟨herror, fun manifest hmanifest => ?_⟩
    rw [hnone] at hmanifest
    cases hmanifest
  · rename_i manifest herror hmanifest
    simp only [passes_append] at h
    obtain ⟨⟨hfields, -⟩, hcalls⟩ := h
    refine ⟨herror, fun manifest' hmanifest' => ?_⟩
    refine ⟨passes_fieldErrors.mp hfields, fun tool htool => ?_⟩
    obtain rfl : manifest = manifest' := Option.some.inj (hmanifest.symm.trans hmanifest')
    -- the rule looks up the call in the turn in which it is expected
    obtain ⟨turn, hturn⟩ := EvaluationManifest.exists_mem_expectedToolCalls htool
    have hcall := passes_all.mp hcalls (turn, tool) hturn
    obtain ⟨line, -, hcall⟩ := passes_check.mp hcall
    split at hcall
    · exact absurd hcall not_passes_error
    · rename_i hoperation
      refine ⟨by simpa using hoperation, fun hne => ?_⟩
      by_contra hmissing
      refine not_passes_error (passes_when.mp hcall ?_)
      simp [hne, hmissing]

/-- What passing the findings about an instruction means, unless it is the global one: its file was
read, all sections are closed, and the agents that it refers to exist. -/
theorem passes_instructionFindings {i : Instruction} (h : (instructionFindings p i).Passes)
    (hglobal : i.isGlobal = false) :
    (i.readError = none ∧ i.unclosed = []) ∧
      ∀ r ∈ i.references, r.kind = .agent → p.HasAgent r.name := by
  unfold instructionFindings at h
  rw [passes_when, hglobal] at h
  have h := h rfl
  simp only [passes_append] at h
  obtain ⟨⟨hsections, hreferences⟩, -⟩ := h
  constructor
  · unfold instructionSections at hsections
    rw [passes_append] at hsections
    cases herror : i.parseError? with
    | some reason =>
      rw [herror] at hsections
      exact absurd hsections.1 not_passes_error
    | none =>
      -- a file that was not read and an open section are both told as one error
      unfold Instruction.parseError? at herror
      split at herror
      · cases herror
      · rename_i hread hunclosed
        exact ⟨hread, hunclosed⟩
      · cases herror
  · intro r hr hkind
    unfold instructionReferences at hreferences
    rw [passes_append, passes_all] at hreferences
    have hmem : r ∈ i.referencesOf .agent := by
      rw [Instruction.referencesOf, List.mem_filter]
      exact ⟨hr, by rw [hkind]; rfl⟩
    have hfound := hreferences.1 r hmem
    exact Package.contains_agentNames.mp (of_passes_when_not not_passes_error hfound)

end Rule

namespace Audit

variable {t : FileTree} {p : Package} {settings : AuditSettings}

/-- A run reports no error exactly when the package passes all of its rules. -/
theorem errors_run_eq_nil_iff {rules : List Rule} :
    (run t settings rules p).errors = [] ↔
      ∀ rule ∈ rules, (rule.findings t p settings).Passes := by
  have hmem : ∀ i, i ∈ (run t settings rules p).issues ↔ i ∈ reported t settings rules p := by
    intro i
    rw [run_eq]
    exact (Issue.isStableSort_sort _).perm.mem_iff
  rw [Report.errors, List.filter_eq_nil_iff]
  simp only [hmem, beq_iff_eq]
  unfold reported
  simp only [List.mem_flatMap, forall_exists_index, and_imp]
  constructor
  · intro h rule hrule
    constructor
    · -- a failure would be reported as an error itself
      cases hfailure : (rule.findings t p settings).failure with
      | none => rfl
      | some f =>
        refine absurd rfl (h (ruleFailure p rule.name f) rule hrule ?_)
        rw [issuesOf, hfailure]
        exact List.mem_append_right _ (List.mem_singleton_self _)
    · intro i hi
      exact h i rule hrule (List.mem_append_left _ hi)
  · intro h i rule hrule hi
    obtain ⟨hfailure, honly⟩ := h rule hrule
    rw [issuesOf, hfailure] at hi
    exact honly i (by simpa using hi)

/-- A model that passes all rules is closed. -/
theorem closed_of_passes (hindexed : p.Indexed t)
    (hpasses : ∀ rule ∈ battery, (rule.findings t p settings).Passes) : p.Closed t := by
  simp only [battery, List.forall_mem_cons] at hpasses
  obtain ⟨hroot, -, -, hguardrails, -, -, hagents, htoolsets, hevaluations, hinstructions, -, -⟩ :=
    hpasses
  -- what each rule vouches for; five of the rules are about nothing that is needed here
  obtain ⟨path, hpath, hdocument, hissues⟩ := Rule.passes_rootManifest hroot
  have hagents := fun a ha => Rule.passes_agentFindings (passes_all.mp hagents a ha)
  have htoolsets := fun s hs => Rule.passes_toolsetFindings (passes_all.mp htoolsets s hs)
  have hevaluations := fun e he =>
    Rule.passes_evaluationFindings (passes_all.mp hevaluations e he)
  have hinstructions := fun i hi =>
    Rule.passes_instructionFindings (passes_all.mp hinstructions i hi)
  constructor
  case manifest =>
    have happ := hindexed.app
    rw [hpath] at happ
    obtain ⟨document, hread, hpart, ⟨reason, hreason⟩ | ⟨fields, text, manifest, rfl, hload,
      hmanifest⟩⟩ := Index.appPart_eq_ok happ
    · -- a document with an error has been ruled out by the rule
      rw [hdocument document hpart] at hreason
      cases hreason
    · simp only [hissues] at hload
      obtain ⟨-, hcheck, rfl⟩ := Manifest.load_eq_ok_nil.mp hload
      exact ⟨path, fields, text, hpath, hread, hcheck, hmanifest, hissues⟩
  case agents =>
    obtain ⟨dirs, hdirs, hes⟩ := Index.agents_eq_ok_iff.mp hindexed.agents
    refine .intro hdirs hes fun a ha => ⟨(hagents a ha).1, fun manifest hmanifest => ?_⟩
    exact ((hagents a ha).2 manifest hmanifest).1
  case toolsets =>
    obtain ⟨dirs, hdirs, hss⟩ := Index.toolsets_eq_ok_iff.mp hindexed.toolsets
    refine .intro hdirs (List.forall₂_map_right_iff.mpr
      (hss.imp fun _ _ h => (Index.toolset_eq_ok_iff.mp h).1)) fun e he => ?_
    obtain ⟨s, hs, rfl⟩ := List.mem_map.mp he
    exact ⟨(htoolsets s hs).1, fun _ _ => (htoolsets s hs).2⟩
  case evaluations =>
    obtain ⟨dirs, hdirs, hes⟩ := Index.evaluations_eq_ok_iff.mp hindexed.evaluations
    refine .intro hdirs hes fun e he => ⟨(hevaluations e he).1, fun manifest hmanifest => ?_⟩
    exact ((hevaluations e he).2 manifest hmanifest).1
  case childAgents =>
    exact fun a ha manifest hmanifest => ((hagents a ha).2 manifest hmanifest).2.1
  case toolsetReferences =>
    exact fun a ha manifest hmanifest => ((hagents a ha).2 manifest hmanifest).2.2
  case guardrails =>
    exact fun manifest hmanifest reference hreference hblank =>
      Rule.passes_guardrailReferences hguardrails hmanifest hpath hreference hblank
  case instructions =>
    exact fun a ha hfile => Index.exists_mem_instructions hindexed.instructions ha hfile
  case agentReferences => exact fun i hi hglobal => (hinstructions i hi hglobal).2
  case sections => exact fun i hi hglobal => (hinstructions i hi hglobal).1
  case toolCalls =>
    exact fun e he manifest hmanifest => ((hevaluations e he).2 manifest hmanifest).2
  case inventory => exact hindexed.inventory

/-- A pass is sound. If a full audit of the package at a path reports no error, the package has a
model, and the model is closed. -/
theorem closed_of_errors_eq_nil (t : FileTree) (cwd : Path) (settings : AuditSettings)
    (path : Path) (h : (indexAndRun t cwd settings path).2.errors = []) :
    ∃ p, (indexAndRun t cwd settings path).1 = some p ∧ Package.build t cwd path = .ok p ∧
      p.Closed t := by
  unfold indexAndRun at h ⊢
  cases hbuild : Package.build t cwd path with
  | error f =>
    -- a package without a model is reported with an error
    rw [hbuild] at h
    simp [notIndexed, Report.add, Report.errors] at h
  | ok p =>
    rw [hbuild] at h
    have hindexed := (Package.build_eq_ok_iff.mp hbuild).2
    exact ⟨p, rfl, rfl, closed_of_passes hindexed (errors_run_eq_nil_iff.mp h)⟩

/-- A shop with two agents, a toolset, a guardrail and an evaluation. -/
def shop : FileTree :=
  ⟨[(["shop"], .directory),
    (["shop", "app.json"],
      .file "\x7b\"rootAgent\": \"desk\", \"guardrails\": [\"safety\"]\x7d".toUTF8),
    (["shop", "agents"], .directory),
    (["shop", "agents", "desk"], .directory),
    (["shop", "agents", "desk", "desk.json"],
      .file ("\x7b\"instruction\": \"agents/desk/instruction.txt\", \"childAgents\": [\"returns\"],"
        ++ "\"tools\": [\"lookup\"], \"toolsets\": [\"orders\"]\x7d").toUTF8),
    (["shop", "agents", "desk", "instruction.txt"],
      .file "<role>\nAsk \x7b@AGENT: returns\x7d.\n</role>\n".toUTF8),
    (["shop", "agents", "returns"], .directory),
    (["shop", "agents", "returns", "returns.json"],
      .file "\x7b\"instruction\": \"agents/returns/instruction.txt\"\x7d".toUTF8),
    (["shop", "agents", "returns", "instruction.txt"], .file "<role>\n</role>\n".toUTF8),
    (["shop", "toolsets"], .directory),
    (["shop", "toolsets", "orders"], .directory),
    (["shop", "toolsets", "orders", "orders.json"],
      .file "\x7b\"toolIds\": [\"refund\"]\x7d".toUTF8),
    (["shop", "guardrails"], .directory),
    (["shop", "guardrails", "safety"], .directory),
    (["shop", "guardrails", "safety", "safety.json"], .file "\x7b\x7d".toUTF8),
    (["shop", "evaluations"], .directory),
    (["shop", "evaluations", "order"], .directory),
    (["shop", "evaluations", "order", "order.json"],
      .file ("\x7b\"golden\": \x7b\"turns\": [\x7b\"steps\": [\x7b\"expectation\":" ++
        "\x7b\"toolCall\": \x7b\"tool\": \"lookup\"\x7d\x7d\x7d]\x7d]\x7d\x7d").toUTF8)]⟩

set_option maxRecDepth 10000 in
/-- A full audit of the shop reports no error, so that the shop is closed. -/
theorem closed_shop :
    (indexAndRun shop ⟨.root, []⟩ {} ⟨.relative, ["shop"]⟩).2.errors = [] ∧
      ∃ p, Package.build shop ⟨.root, []⟩ ⟨.relative, ["shop"]⟩ = .ok p ∧ p.Closed shop := by
  have herrors : (indexAndRun shop ⟨.root, []⟩ {} ⟨.relative, ["shop"]⟩).2.errors = [] := by
    decide +kernel
  obtain ⟨p, -, hbuild, hclosed⟩ :=
    closed_of_errors_eq_nil shop ⟨.root, []⟩ {} ⟨.relative, ["shop"]⟩ herrors
  exact ⟨herrors, p, hbuild, hclosed⟩

end Audit

end AgentPackage
