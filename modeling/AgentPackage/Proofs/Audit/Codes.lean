import AgentPackage.Audit.Run
import AgentPackage.Proofs.Findings
import AgentPackage.Proofs.Package.Places

/-!
# What rules report

Each rule of a full audit reports issues of a few codes, and no two rules share one. Most rules
report them about files in the root of the package, or about the file of what they look at. Besides
there are the files that the manifests of the package and of toolsets lead to: schemas, manifests of
guardrails, and the one of the root agent.

## Main definitions

* `Package.InRoot`: the issue is about a file in the root of the package;
* `Rule.AboutAgent`, `Rule.AboutToolset`, `Rule.AboutEvaluation`: the codes and the files of the
  issues about an entity.

## Main results

* `Rule.rootManifest_about`, `Rule.rootAgent_about`, `Rule.globalInstruction_about`,
  `Rule.guardrailReferences_about`, `Rule.unsupportedDirectories_about`, `Rule.nestingDepth_about`,
  `Rule.environmentFile_about`: the codes and the files of the issues of each rule;
* `Rule.agentFindings_only`, `Rule.toolsetFindings_only`, `Rule.evaluationFindings_only`: those of
  the issues about one entity;
* `Audit.map_fst_ruleCodes`, `Audit.only_of_mem_ruleCodes`: the codes of the issues of each rule;
* `Audit.nodup_ruleCodes`, `Audit.eq_of_code`: no code belongs to two rules.
-/

namespace AgentPackage

open Findings

/-- The issue has one of the given codes. -/
def Issue.HasCode (codes : List String) (i : Issue) : Prop :=
  i.code ∈ codes

/-- The issue is about a file in the root of the package. -/
def Package.InRoot (p : Package) (i : Issue) : Prop :=
  ∃ path, Index.IsEntryOf p.root path ∧ i.file = path.text

/-- Where the manifest of the root agent is looked for. -/
def Package.rootAgentPlace (p : Package) (name : String) : Path :=
  ((p.root.entry "agents").child name).child (name ++ ".json")

/-- The manifests of guardrails are looked for at paths with proper names. -/
theorem Guardrail.candidates_proper {root c : Path} {reference : String} (hroot : root.Proper)
    (habsolute : root.isAbsolute = true) (hc : c ∈ candidates root reference) :
    c.Proper ∧ c.isAbsolute = true := by
  have hfolder : (root.entry folderName).Proper := Path.entry_proper hroot (by decide)
  have hfolderAbsolute : (root.entry folderName).isAbsolute = true := habsolute
  obtain ⟨s, -, hc⟩ := List.mem_flatMap.mp hc
  simp only [List.mem_cons, List.not_mem_nil, or_false] at hc
  rcases hc with rfl | rfl
  · exact ⟨Path.child_proper (Path.child_proper hfolder s) _,
      Path.join_isAbsolute (Path.join_isAbsolute hfolderAbsolute)⟩
  · exact ⟨Path.child_proper hfolder _, Path.join_isAbsolute hfolderAbsolute⟩

namespace Rule

variable {t : FileTree} {p : Package} {settings : AuditSettings}

section Manifest

/-- The codes of `rootManifest`. -/
def rootManifestCodes : List String :=
  ["CES_MANIFEST_MISSING", "CES_MANIFEST_BOTH_PRESENT", "CES_APP_JSON_ONLY",
    "CES_MANIFEST_INVALID_ROOT", "CES_MANIFEST_PARSE_ERROR", "CES_MANIFEST_FIELD_INVALID"]

theorem rootManifest_about :
    (rootManifest.findings t p settings).Only fun i =>
      i.HasCode rootManifestCodes ∧ p.InRoot i := by
  simp only [rootManifest]
  split
  · exact only_error ⟨by simp [Issue.HasCode, rootManifestCodes], _,
      p.isEntryOf_defaultManifestPath, rfl⟩
  · rename_i path hpath
    have hentry := Package.isEntryOf_of_manifestPath? hpath
    refine only_append ?_ ?_
    · unfold manifestChoice
      split
      · exact only_warning ⟨by simp [Issue.HasCode, rootManifestCodes], path, hentry, rfl⟩
      · split
        · exact only_warning ⟨by simp [Issue.HasCode, rootManifestCodes], path, hentry, rfl⟩
        · exact only_nothing
    · unfold manifestContent
      split
      · exact only_error ⟨by simp [Issue.HasCode, rootManifestCodes], path, hentry, rfl⟩
      · split
        · exact only_error ⟨by simp [Issue.HasCode, rootManifestCodes], path, hentry, rfl⟩
        · exact only_fieldErrors fun _ _ =>
            ⟨by simp [Issue.HasCode, rootManifestCodes], path, hentry, rfl⟩

/-- The codes of `rootAgent`. -/
def rootAgentCodes : List String :=
  ["CES_ROOT_AGENT_MISSING", "CES_ROOT_AGENT_DIR_MISSING", "CES_ROOT_AGENT_MANIFEST_MISSING"]

/-- What is reported of the root agent is about the manifest of the package, or the manifest of the
agent is missing. -/
theorem rootAgent_about :
    (rootAgent.findings t p settings).Only fun i => i.HasCode rootAgentCodes ∧ (p.InRoot i ∨
      ∃ m name, p.manifest = some m ∧ m.rootAgent = some name ∧
        i = ⟨"CES_ROOT_AGENT_MANIFEST_MISSING",
          "rootAgent manifest missing at agents/" ++ name ++ "/" ++ name ++ ".json", .error,
          (p.rootAgentPlace name).text, some 1⟩) := by
  simp only [rootAgent]
  split
  · rename_i m path hm hpath
    have hentry := Package.isEntryOf_of_manifestPath? hpath
    refine only_check fun line => ?_
    cases hname : m.rootAgent with
    | none =>
      refine only_when (only_error ⟨?_, .inl ⟨path, hentry, rfl⟩⟩)
      simp [Issue.HasCode, rootAgentCodes]
    | some name =>
      rw [Option.getD_some]
      split
      · refine only_when (only_error ⟨?_, .inl ⟨path, hentry, rfl⟩⟩)
        simp [Issue.HasCode, rootAgentCodes]
      · refine only_check fun hasDirectory => ?_
        split
        · exact only_error ⟨by simp [Issue.HasCode, rootAgentCodes], .inl ⟨path, hentry, rfl⟩⟩
        · refine only_check fun hasFile => only_when (only_error ?_)
          refine ⟨?_, .inr ⟨m, name, hm, hname, rfl⟩⟩
          simp [Issue.HasCode, rootAgentCodes]
  · exact only_nothing

/-- The codes of `globalInstruction`. -/
def globalInstructionCodes : List String := ["CES_GLOBAL_INSTRUCTION_MISSING"]

theorem globalInstruction_about :
    (globalInstruction.findings t p settings).Only fun i =>
      i.HasCode globalInstructionCodes ∧ p.InRoot i := by
  simp only [globalInstruction]
  split
  · rename_i path _ hpath
    have hentry := Package.isEntryOf_of_manifestPath? hpath
    split
    · exact only_nothing
    · exact only_check fun pathExists => only_when (only_errorAt fun _ =>
        ⟨by simp [Issue.HasCode, globalInstructionCodes], path, hentry, rfl⟩)
  · exact only_nothing

/-- The codes of `guardrailReferences`. -/
def guardrailCodes : List String :=
  ["CES_GUARDRAIL_REFERENCE_MISSING", "CES_GUARDRAIL_JSON_INVALID", "CES_GUARDRAIL_FIELD_INVALID",
    "CES_GUARDRAIL_DISPLAYNAME_MISMATCH"]

/-- The codes of the errors about the manifest of a guardrail. -/
def guardrailManifestCodes : List String :=
  ["CES_GUARDRAIL_JSON_INVALID", "CES_GUARDRAIL_FIELD_INVALID"]

theorem guardrailManifest_about {reference : String} {path : Path} {document : Document} :
    (guardrailManifest t reference path document).Only fun i => i.HasCode guardrailCodes ∧
      i.file = path.text ∧ (i.severity = .error → i.HasCode guardrailManifestCodes) := by
  unfold guardrailManifest
  split
  · exact only_error ⟨by simp [Issue.HasCode, guardrailCodes], rfl,
      fun _ => by simp [Issue.HasCode, guardrailManifestCodes]⟩
  · refine only_check fun loaded => only_append (only_append ?_ (only_counted _)) ?_
    · exact only_fieldErrors fun _ _ => ⟨by simp [Issue.HasCode, guardrailCodes], rfl,
        fun _ => by simp [Issue.HasCode, guardrailManifestCodes]⟩
    · split
      · exact only_nothing
      · exact only_when (only_warningAt fun _ =>
          ⟨by simp [Issue.HasCode, guardrailCodes], rfl, fun h => by cases h⟩)

/-- What is reported of guardrails is about the manifest of the package, or about the manifest to
which one of its references leads. -/
theorem guardrailReferences_about :
    (guardrailReferences.findings t p settings).Only fun i => i.HasCode guardrailCodes ∧
      (p.InRoot i ∨ ∃ m reference file, p.manifest = some m ∧
        reference ∈ m.guardrails.getD [] ∧ Guardrail.resolve t p reference = .ok (some file) ∧
        i.file = file.text ∧ (i.severity = .error → i.HasCode guardrailManifestCodes)) := by
  simp only [guardrailReferences]
  split
  · rename_i m path hm hpath
    have hentry := Package.isEntryOf_of_manifestPath? hpath
    refine only_all fun reference hreference => only_when ?_
    cases hfound : Guardrail.resolve t p reference with
    | error f => exact only_failed f
    | ok found =>
      cases found with
      | none =>
        exact only_errorAt fun _ =>
          ⟨by simp [Issue.HasCode, guardrailCodes], .inl ⟨path, hentry, rfl⟩⟩
      | some file =>
        show (check (Document.read t .json file) (guardrailManifest t reference file)).Only _
        refine only_check fun document => guardrailManifest_about.mono fun i hi => ?_
        exact ⟨hi.1, .inr ⟨m, reference, file, hm, hreference, hfound, hi.2⟩⟩
  · exact only_nothing

end Manifest

section Listing

/-- The codes of `unsupportedDirectories`. -/
def unsupportedDirectoryCodes : List String := ["CES_UNSUPPORTED_IMPORT_DIRECTORY"]

theorem unsupportedDirectories_about :
    (unsupportedDirectories.findings t p settings).Only fun i =>
      i.HasCode unsupportedDirectoryCodes ∧ p.InRoot i := by
  refine only_all fun name _ => only_when (only_check fun line => only_error ⟨?_, _, ?_, rfl⟩)
  · simp [Issue.HasCode, unsupportedDirectoryCodes]
  · exact p.isEntryOf_defaultManifestPath

/-- The codes of `nestingDepth`. -/
def nestingDepthCodes : List String :=
  ["CES_NESTING_DEPTH_EXCEEDED", "CES_TOOLSET_NESTING_DEPTH_EXCEEDED",
    "CES_GUARDRAIL_NESTING_DEPTH_EXCEEDED"]

/-- The code of a folder is one of those for depths. -/
theorem mem_nestingDepthCodes {folder code : String} {limit : Int}
    (h : depthRule? settings folder = some (code, limit)) : code ∈ nestingDepthCodes := by
  -- one case for each folder that has a limit
  unfold depthRule? at h
  split at h
  · simp_all [nestingDepthCodes]
  · split at h
    · simp_all [nestingDepthCodes]
    · split at h
      · simp_all [nestingDepthCodes]
      · cases h

/-- The depth of files gives rise to warnings. -/
theorem nestingDepth_about :
    (nestingDepth.findings t p settings).Only fun i =>
      i.HasCode nestingDepthCodes ∧ i.severity = .warning := by
  refine only_all fun file _ => ?_
  unfold fileDepth
  dsimp only
  split
  · exact only_nothing
  · split
    · exact only_nothing
    · rename_i hrule
      exact only_when (only_warning ⟨mem_nestingDepthCodes hrule, rfl⟩)

end Listing

section Agents

variable {agent : Entity AgentManifest} {manifest : AgentManifest}

/-- The codes of `agents`. -/
def agentCodes : List String :=
  ["CES_AGENT_MANIFEST_INVALID", "CES_AGENT_FIELD_INVALID", "CES_AGENT_INSTRUCTION_MISSING",
    "CES_AGENT_INSTRUCTION_PATH_MISMATCH", "CES_AGENT_INSTRUCTION_FILE_MISSING",
    "CES_CHILD_AGENT_MISSING", "CES_AGENT_TOOLSET_REFERENCE_MISSING"]

/-- The issue has a code of `agents` and is about the manifest of the agent. -/
def AboutAgent (agent : Entity AgentManifest) (i : Issue) : Prop :=
  i.HasCode agentCodes ∧ i.file = agent.manifestPath.text

theorem agentInstruction_only :
    (agentInstruction t p agent manifest).Only (AboutAgent agent) := by
  refine only_check fun line => ?_
  dsimp only
  split
  · exact only_when (only_error ⟨by simp [Issue.HasCode, agentCodes], rfl⟩)
  · refine only_append (only_when ?_) (only_check fun pathExists => only_when ?_)
    · exact only_error ⟨by simp [Issue.HasCode, agentCodes], rfl⟩
    · exact only_error ⟨by simp [Issue.HasCode, agentCodes], rfl⟩

theorem childAgents_only : (childAgents t p agent manifest).Only (AboutAgent agent) := by
  refine only_all fun child _ => only_when (only_errorAt fun _ => ?_)
  exact ⟨by simp [Issue.HasCode, agentCodes], rfl⟩

theorem agentToolsets_only : (agentToolsets t p agent manifest).Only (AboutAgent agent) := by
  refine only_all fun toolset _ => only_when (only_errorAt fun _ => ?_)
  exact ⟨by simp [Issue.HasCode, agentCodes], rfl⟩

/-- The issues about an agent have a code of `agents` and are about its manifest. -/
theorem agentFindings_only : (agentFindings t p agent).Only (AboutAgent agent) := by
  unfold agentFindings
  -- the error of the manifest, then what the manifest says
  refine only_append ?_ ?_
  · split
    · exact only_error ⟨by simp [Issue.HasCode, agentCodes], rfl⟩
    · exact only_nothing
  · split
    · exact only_nothing
    · refine only_append (only_append (only_append ?_ agentInstruction_only) childAgents_only)
        agentToolsets_only
      exact only_fieldErrors fun _ _ => ⟨by simp [Issue.HasCode, agentCodes], rfl⟩

theorem agents_only : (agents.findings t p settings).Only (Issue.HasCode agentCodes) :=
  only_all fun _ _ => agentFindings_only.mono fun _ h => h.1

end Agents

section Toolsets

variable {toolset : Toolset}

/-- The codes of `toolsets`. -/
def toolsetCodes : List String :=
  ["CES_TOOLSET_MANIFEST_INVALID", "CES_TOOLSET_FIELD_INVALID", "CES_OPENAPI_SCHEMA_MISSING",
    "CES_OPENAPI_SCHEMA_NOT_FOUND", "CES_OPENAPI_PARSE_ERROR", "CES_OPENAPI_INVALID_ROOT",
    "CES_OPENAPI_VERSION_MISSING"]

/-- The schema file that is read for a toolset: the one that it declares, or else the one in its
folder for schemas. -/
def schemaPath? (p : Package) (toolset : Toolset) : Option Path :=
  match declaredSchema? toolset with
  | some declared => some (Declared.resolve p.root (Declared.withSlashes declared))
  | none => toolset.detectedSchema

/-- The path of the schema of a toolset has proper names. -/
theorem schemaPath_proper (hindexed : p.Indexed t) (ht : t.Proper) (hproper : p.root.Proper)
    (habsolute : p.root.isAbsolute = true) (htoolset : toolset ∈ p.toolsets) {path : Path}
    (h : schemaPath? p toolset = some path) : path.Proper ∧ path.isAbsolute = true := by
  unfold schemaPath? at h
  split at h
  · rw [← Option.some.inj h]
    exact ⟨Declared.resolve_proper hproper _, Declared.resolve_isAbsolute habsolute _⟩
  · exact (hindexed.toolset_proper ht hproper habsolute htoolset).2 path h

/-- The issue has a code of `toolsets` and is about the manifest of the toolset or about its
schema file. -/
def AboutToolset (p : Package) (toolset : Toolset) (i : Issue) : Prop :=
  i.HasCode toolsetCodes ∧
    (i.file = toolset.entity.manifestPath.text ∨
      ∃ path, schemaPath? p toolset = some path ∧ i.file = path.text)

/-- The codes and messages of the errors about a schema that was read. -/
def schemaMessages : List (String × String) :=
  [("CES_OPENAPI_INVALID_ROOT", "OpenAPI schema root must be an object"),
    ("CES_OPENAPI_VERSION_MISSING",
      "OpenAPI schema must define either 'openapi' or 'swagger' at top level")]

/-- What is reported of a schema is that it cannot be read, or has a fixed message. -/
theorem schemaFile_about {path : Path} :
    (schemaFile t path).Only fun i => i.file = path.text ∧
      (i.code = "CES_OPENAPI_PARSE_ERROR" ∨ (i.code, i.message) ∈ schemaMessages) := by
  refine only_check fun document => ?_
  unfold schemaDocument
  split
  · exact only_error ⟨rfl, .inr (by simp [schemaMessages])⟩
  · split
    · exact only_counted _
    · exact only_check fun line => only_error ⟨rfl, .inr (by simp [schemaMessages])⟩
  · exact only_error ⟨rfl, .inl rfl⟩

theorem schemaFile_only {path : Path} :
    (schemaFile t path).Only fun i => i.HasCode toolsetCodes ∧ i.file = path.text := by
  refine schemaFile_about.mono fun i hi => ⟨?_, hi.1⟩
  have hcodes : ∀ code ∈ "CES_OPENAPI_PARSE_ERROR" :: schemaMessages.map Prod.fst,
      code ∈ toolsetCodes := by
    decide
  rcases hi.2 with hcode | hmessage
  · exact hcodes _ (hcode ▸ List.mem_cons_self)
  · exact hcodes _ (List.mem_cons_of_mem _ (List.mem_map_of_mem hmessage))

theorem noSchemaFile_only : (noSchemaFile t p toolset).Only (AboutToolset p toolset) := by
  refine only_check fun hasDirectory => only_when (only_errorAt fun _ => ?_)
  exact ⟨by simp [Issue.HasCode, toolsetCodes], .inl rfl⟩

theorem toolsetSchema_only : (toolsetSchema t p toolset).Only (AboutToolset p toolset) := by
  -- whichever file is read, its issues are about it
  have hfile : ∀ path, schemaPath? p toolset = some path →
      (schemaFile t path).Only (AboutToolset p toolset) := by
    intro path hpath
    exact schemaFile_only.mono fun i hi => ⟨hi.1, .inr ⟨path, hpath, hi.2⟩⟩
  unfold toolsetSchema
  split
  · rename_i hdeclared
    split
    · rename_i path hpath
      exact hfile path (by rw [schemaPath?, hdeclared, hpath])
    · exact noSchemaFile_only
  · rename_i declared hdeclared
    refine only_check fun pathExists => ?_
    split
    · exact hfile _ (by rw [schemaPath?, hdeclared])
    · refine only_append (only_errorAt fun _ => ?_) noSchemaFile_only
      exact ⟨by simp [Issue.HasCode, toolsetCodes], .inl rfl⟩

/-- The issues about a toolset have a code of `toolsets` and are about its manifest or about its
schema file. -/
theorem toolsetFindings_only : (toolsetFindings t p toolset).Only (AboutToolset p toolset) := by
  unfold toolsetFindings
  split
  · exact only_error ⟨by simp [Issue.HasCode, toolsetCodes], .inl rfl⟩
  · refine only_append (only_fieldErrors fun _ _ => ?_) toolsetSchema_only
    exact ⟨by simp [Issue.HasCode, toolsetCodes], .inl rfl⟩

theorem toolsets_only : (toolsets.findings t p settings).Only (Issue.HasCode toolsetCodes) :=
  only_all fun _ _ => toolsetFindings_only.mono fun _ h => h.1

end Toolsets

section Texts

/-- The codes of `evaluations`. -/
def evaluationCodes : List String :=
  ["CES_EVALUATION_MANIFEST_INVALID", "CES_EVALUATION_FIELD_INVALID",
    "CES_EVALUATION_DISPLAYNAME_MISMATCH", "CES_EVALUATION_TOOLCALL_OPENAPI_OPERATION",
    "CES_EVALUATION_TOOLCALL_UNKNOWN"]

/-- The issue has a code of `evaluations` and is about the manifest of the evaluation. -/
def AboutEvaluation (evaluation : Entity EvaluationManifest) (i : Issue) : Prop :=
  i.HasCode evaluationCodes ∧ i.file = evaluation.manifestPath.text

/-- The issues about an evaluation have a code of `evaluations` and are about its manifest. -/
theorem evaluationFindings_only {evaluation : Entity EvaluationManifest} :
    (evaluationFindings t p evaluation).Only (AboutEvaluation evaluation) := by
  unfold evaluationFindings
  split
  · exact only_error ⟨by simp [Issue.HasCode, evaluationCodes], rfl⟩
  · exact only_nothing
  · refine only_append (only_append ?_ ?_) (only_all fun call _ => only_check fun line => ?_)
    · exact only_fieldErrors fun _ _ => ⟨by simp [Issue.HasCode, evaluationCodes], rfl⟩
    · unfold evaluationName
      split
      · exact only_nothing
      · exact only_when (only_warningAt fun _ => ⟨by simp [Issue.HasCode, evaluationCodes], rfl⟩)
    · split
      · exact only_error ⟨by simp [Issue.HasCode, evaluationCodes], rfl⟩
      · exact only_when (only_error ⟨by simp [Issue.HasCode, evaluationCodes], rfl⟩)

theorem evaluations_only :
    (evaluations.findings t p settings).Only (Issue.HasCode evaluationCodes) :=
  only_all fun _ _ => evaluationFindings_only.mono fun _ h => h.1

/-- The codes of `instructions`. -/
def instructionCodes : List String :=
  ["CES_INSTRUCTION_PARSE_ERROR", "CES_INSTRUCTION_MISSING_SECTION",
    "CES_INSTRUCTION_AGENT_REF_UNKNOWN", "CES_INSTRUCTION_TOOL_REF_UNKNOWN",
    "CES_INSTRUCTION_TOOLCALL_UNKNOWN_TOOLSET", "CES_INSTRUCTION_TOOLCALL_UNKNOWN_TOOL"]

theorem instructionSections_only {i : Instruction} :
    (instructionSections i).Only (Issue.HasCode instructionCodes) := by
  refine only_append ?_ (only_all fun name _ => only_when ?_)
  · split
    · exact only_error (by simp [Issue.HasCode, instructionCodes])
    · exact only_nothing
  · exact only_warning (by simp [Issue.HasCode, instructionCodes])

theorem instructionReferences_only {i : Instruction} :
    (instructionReferences p i).Only (Issue.HasCode instructionCodes) := by
  refine only_append (only_all fun r _ => only_when ?_) (only_all fun r _ => only_when ?_)
  · exact only_error (by simp [Issue.HasCode, instructionCodes])
  · exact only_warning (by simp [Issue.HasCode, instructionCodes])

theorem instructionCall_only {i : Instruction} {call : ToolCall} :
    (instructionCall p i call).Only (Issue.HasCode instructionCodes) := by
  unfold instructionCall
  split
  · exact only_when (only_warning (by simp [Issue.HasCode, instructionCodes]))
  · exact only_when (only_warning (by simp [Issue.HasCode, instructionCodes]))

theorem instructions_only :
    (instructions.findings t p settings).Only (Issue.HasCode instructionCodes) := by
  refine only_all fun i _ => only_when (only_append (only_append ?_ ?_) ?_)
  · exact instructionSections_only
  · exact instructionReferences_only
  · exact only_all fun _ _ => instructionCall_only

/-- The codes of `environmentFile`. -/
def environmentCodes : List String :=
  ["CES_ENVIRONMENT_PARSE_ERROR", "CES_ENVIRONMENT_INVALID_ROOT",
    "CES_ENVIRONMENT_TOOLSETS_INVALID", "CES_ENVIRONMENT_TOOLSET_ENTRY_INVALID",
    "CES_ENVIRONMENT_OPENAPI_TOOLSET_INVALID", "CES_ENVIRONMENT_OPENAPI_URL_INVALID",
    "CES_ENVIRONMENT_LOCALHOST_WARNING"]

theorem environmentEntry_about {path : Path} {name : String} {entry : Value} :
    (environmentEntry t path name entry).Only fun i =>
      i.HasCode environmentCodes ∧ i.file = path.text := by
  unfold environmentEntry
  dsimp only
  split
  · split
    · exact only_nothing
    · split
      · exact only_nothing
      · exact only_nothing
      · exact only_errorAt fun _ => ⟨by simp [Issue.HasCode, environmentCodes], rfl⟩
    · exact only_errorAt fun _ => ⟨by simp [Issue.HasCode, environmentCodes], rfl⟩
  · exact only_errorAt fun _ => ⟨by simp [Issue.HasCode, environmentCodes], rfl⟩

/-- What is reported of the environment file is about it. -/
theorem environmentFile_about :
    (environmentFile.findings t p settings).Only fun i => i.HasCode environmentCodes ∧
      ∃ e, p.environment = some e ∧ i.file = e.path.text := by
  simp only [environmentFile]
  split
  · exact only_nothing
  · exact only_error ⟨by simp [Issue.HasCode, environmentCodes], _, ‹_›, rfl⟩
  · rename_i henvironment
    refine only_append ?_ (only_when (only_check fun _ => only_when ?_))
    · unfold environmentToolsets
      split
      · exact only_all fun _ _ => environmentEntry_about.mono fun i hi =>
          ⟨hi.1, _, henvironment, hi.2⟩
      · exact only_errorAt fun _ =>
          ⟨by simp [Issue.HasCode, environmentCodes], _, henvironment, rfl⟩
    · exact only_warning ⟨by simp [Issue.HasCode, environmentCodes], _, henvironment, rfl⟩
  · exact only_error ⟨by simp [Issue.HasCode, environmentCodes], _, ‹_›, rfl⟩

end Texts

end Rule

namespace Audit

open Rule

/-- The rules of a full audit with the codes of their issues. -/
def ruleCodes : List (Rule × List String) :=
  [(rootManifest, rootManifestCodes), (rootAgent, rootAgentCodes),
    (globalInstruction, globalInstructionCodes), (guardrailReferences, guardrailCodes),
    (unsupportedDirectories, unsupportedDirectoryCodes), (nestingDepth, nestingDepthCodes),
    (agents, agentCodes), (toolsets, toolsetCodes), (evaluations, evaluationCodes),
    (instructions, instructionCodes), (environmentFile, environmentCodes)]

theorem map_fst_ruleCodes : ruleCodes.map Prod.fst = battery := by
  simp only [ruleCodes, List.map_cons, List.map_nil]
  rfl

/-- No code belongs to two rules, and none of them reports a failure. -/
theorem nodup_ruleCodes : (failureCode :: ruleCodes.flatMap Prod.snd).Nodup := by
  decide +kernel

/-- A code tells of which rule it is. -/
theorem eq_of_code {a b : Rule × List String} (ha : a ∈ ruleCodes) (hb : b ∈ ruleCodes)
    {code : String} (hcodeA : code ∈ a.2) (hcodeB : code ∈ b.2) : a = b := by
  by_contra hne
  have hsymm : Std.Symm fun a b : Rule × List String => List.Disjoint a.2 b.2 :=
    ⟨fun _ _ h => h.symm⟩
  have hdisjoint : ruleCodes.Pairwise fun a b => List.Disjoint a.2 b.2 :=
    (List.nodup_flatMap.mp (List.nodup_cons.mp nodup_ruleCodes).2).2
  exact hdisjoint.forall ha hb hne hcodeA hcodeB

/-- The issues of a rule have the codes of the rule. -/
theorem only_of_mem_ruleCodes {rule : Rule} {codes : List String}
    (h : (rule, codes) ∈ ruleCodes) (t : FileTree) (p : Package) (settings : AuditSettings) :
    (rule.findings t p settings).Only (Issue.HasCode codes) := by
  simp only [ruleCodes, List.mem_cons, List.not_mem_nil, or_false, Prod.mk.injEq] at h
  -- the list is fixed, so there is one case for each rule
  rcases h with ⟨rfl, rfl⟩ | ⟨rfl, rfl⟩ | ⟨rfl, rfl⟩ | ⟨rfl, rfl⟩ | ⟨rfl, rfl⟩ | ⟨rfl, rfl⟩ |
    ⟨rfl, rfl⟩ | ⟨rfl, rfl⟩ | ⟨rfl, rfl⟩ | ⟨rfl, rfl⟩ | ⟨rfl, rfl⟩
  · exact rootManifest_about.mono fun _ hi => hi.1
  · exact rootAgent_about.mono fun _ hi => hi.1
  · exact globalInstruction_about.mono fun _ hi => hi.1
  · exact guardrailReferences_about.mono fun _ hi => hi.1
  · exact unsupportedDirectories_about.mono fun _ hi => hi.1
  · exact nestingDepth_about.mono fun _ hi => hi.1
  · exact agents_only
  · exact toolsets_only
  · exact evaluations_only
  · exact instructions_only
  · exact environmentFile_about.mono fun _ hi => hi.1

end Audit

end AgentPackage
