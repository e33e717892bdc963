import AgentPackage.Audit.Rules.GuardrailReferences
import AgentPackage.Proofs.Package.Index

/-!
# Closed packages

A package is closed when all its manifests were loaded without a loss and every name in them stands
for something in the package. This is what a package needs in order to be imported; it is stated
here without the rules that look for it.

## Main definitions

* `Entity.Fits`: the manifest of an entity is that of the whole mapping in its file;
* `EvaluationManifest.Expects`: some step of the golden conversation expects the call of a tool;
* `Package.Closed`: a package without a dangling name.
-/

namespace AgentPackage

/-- The file of an entity holds a mapping in which every value fits, and the manifest of the entity
is that of the mapping. -/
def Entity.Fits {α : Type} (t : FileTree) (shape : RecordShape Shape) (build : Fields → α)
    (e : Entity α) : Prop :=
  ∃ fields text,
    Document.read t .json e.manifestPath = .ok (.record fields text) ∧
      shape.check fields = [] ∧ e.manifest = some (build fields) ∧ e.fieldIssues = []

/-- A manifest that was loaded without an issue fits. -/
theorem Entity.Loaded.fits {α : Type} {t : FileTree} {shape : RecordShape Shape}
    {build : Fields → α} {e : Entity α} (h : e.Loaded t shape build)
    (hissues : e.fieldIssues = []) : e.Fits t shape build := by
  obtain ⟨fields, text, manifest, hread, hload, hmanifest⟩ := h
  rw [hissues] at hload
  obtain ⟨-, hcheck, rfl⟩ := Manifest.load_eq_ok_nil.mp hload
  exact ⟨fields, text, hread, hcheck, hmanifest, hissues⟩

/-- The entities are those of the folders in a directory, one for each, and all of them fit. -/
def Index.FromFolders {α : Type} (t : FileTree) (dir : Path) (shape : RecordShape Shape)
    (build : Fields → α) (es : List (Entity α)) : Prop :=
  ∃ dirs, Index.subdirectories t dir = .ok dirs ∧
    List.Forall₂ (fun dir e => Index.StandsFor dir e ∧ e.Fits t shape build) dirs es

/-- Entities that were loaded for the folders in a directory fit if none of them has an error or an
issue. -/
theorem Index.FromFolders.intro {α : Type} {t : FileTree} {dir : Path} {kind : String}
    {shape : RecordShape Shape} {build : Fields → α} {es : List (Entity α)} {dirs : List Path}
    (hdirs : Index.subdirectories t dir = .ok dirs)
    (hes : List.Forall₂ (fun dir e => Index.entity t kind shape build dir = .ok e) dirs es)
    (hok : ∀ e ∈ es,
      e.error = none ∧ ∀ manifest, e.manifest = some manifest → e.fieldIssues = []) :
    Index.FromFolders t dir shape build es := by
  refine ⟨dirs, hdirs, ?_⟩
  clear hdirs
  -- folder by folder; an entity with a reason for having no manifest is ruled out by `hok`
  induction hes with
  | nil => exact .nil
  | cons he _ ih =>
    rw [List.forall_mem_cons] at hok
    obtain ⟨hplaces, ⟨reason, hreason⟩ | ⟨-, hloaded⟩⟩ := Index.entity_eq_ok he
    · rw [hok.1.1] at hreason
      cases hreason
    · obtain ⟨_, _, manifest, _, _, hmanifest⟩ := id hloaded
      exact .cons ⟨hplaces, hloaded.fits (hok.1.2 manifest hmanifest)⟩ (ih hok.2)

/-- The agent refers to a toolset, by its name or by an entry with its name. -/
def AgentManifest.RefersTo (m : AgentManifest) (toolset : String) : Prop :=
  ∃ entry ∈ m.toolsets.getD [], AgentManifest.entryName? entry = some toolset

/-- The names of toolsets that are looked up are the ones that are not empty. -/
theorem AgentManifest.mem_toolsetNames {m : AgentManifest} {toolset : String} :
    toolset ∈ m.toolsetNames ↔ m.RefersTo toolset ∧ toolset ≠ "" := by
  simp [toolsetNames, RefersTo, List.mem_filter, List.mem_filterMap]

namespace EvaluationManifest

/-- Some step of the golden conversation expects the call of a tool whose name is not blank. -/
def Expects (m : EvaluationManifest) (tool : String) : Prop :=
  ∃ golden turns turn steps step expectation call,
    m.golden = some golden ∧ Fields.get? golden "turns" = some (.list turns) ∧ turn ∈ turns ∧
      field? "steps" turn = some (.list steps) ∧ step ∈ steps ∧
      field? "expectation" step = some expectation ∧
      field? "toolCall" expectation = some call ∧ field? "tool" call = some (.str tool) ∧
      Text.isAllBlank tool = false

/-- The tool whose call a step expects. -/
theorem expectedTool?_eq_some {step : Value} {tool : String}
    {expectation call : Value} (hexpectation : field? "expectation" step = some expectation)
    (hcall : field? "toolCall" expectation = some call)
    (htool : field? "tool" call = some (.str tool)) (hblank : Text.isAllBlank tool = false) :
    expectedTool? step = some tool := by
  simp [expectedTool?, hexpectation, hcall, htool, Value.str?, hblank]

/-- The calls that are looked up are the ones that the golden conversation expects. -/
theorem exists_mem_expectedToolCalls {m : EvaluationManifest} {tool : String}
    (h : m.Expects tool) : ∃ turn, (turn, tool) ∈ m.expectedToolCalls := by
  obtain ⟨golden, turns, turn, steps, step, expectation, call, hgolden, hturns, hturn, hsteps,
    hstep, hexpectation, hcall, htool, hblank⟩ := h
  -- calls are listed with the numbers of their turns
  obtain ⟨n, hn, rfl⟩ := List.getElem_of_mem hturn
  have hexpected : tool ∈ turnTools turns[n] := by
    rw [turnTools, hsteps]
    exact List.mem_filterMap.mpr
      ⟨step, hstep, expectedTool?_eq_some hexpectation hcall htool hblank⟩
  refine ⟨n, ?_⟩
  rw [expectedToolCalls, hgolden, Option.bind_some, hturns]
  refine List.mem_flatMap.mpr ⟨(turns[n], n), ?_, List.mem_map.mpr ⟨tool, hexpected, rfl⟩⟩
  rw [List.mem_zipIdx_iff_getElem?]
  exact List.getElem?_eq_getElem hn

end EvaluationManifest

namespace Package

/-- The name is that of an agent of the package. -/
def HasAgent (p : Package) (name : String) : Prop :=
  ∃ a ∈ p.agents, a.name = name

/-- The name is that of a toolset of the package. -/
def HasToolset (p : Package) (name : String) : Prop :=
  ∃ s ∈ p.toolsets, s.entity.name = name

theorem contains_agentNames {p : Package} {name : String} :
    p.agentNames.contains name = true ↔ p.HasAgent name := by
  simp [agentNames, HasAgent]

theorem contains_toolsetNames {p : Package} {name : String} :
    p.toolsetNames.contains name = true ↔ p.HasToolset name := by
  simp [toolsetNames, HasToolset]

/-- Every manifest of the package was loaded without a loss, and every name in a manifest or in an
instruction stands for something that the package has. -/
structure Closed (t : FileTree) (p : Package) : Prop where
  /-- There is a manifest file, it holds a mapping in which every value fits, and the manifest of
  the package is that of the mapping. -/
  manifest : ∃ path fields text,
    p.manifestPath? = some path ∧
      Document.readByExtension t path = .ok (.record fields text) ∧
      Manifest.appShape.check fields = [] ∧ p.manifest = some (Manifest.app fields) ∧
      p.fieldIssues = []
  /-- There is an agent for each folder for agents, and its manifest fits. -/
  agents :
    Index.FromFolders t (p.root.entry "agents") Manifest.agentShape Manifest.agent p.agents
  /-- There is a toolset for each folder for toolsets, and its manifest fits. -/
  toolsets :
    Index.FromFolders t (p.root.entry "toolsets") Manifest.toolsetShape Manifest.toolsetManifest
      (p.toolsets.map Toolset.entity)
  /-- There is an evaluation for each folder for evaluations, and its manifest fits. -/
  evaluations :
    Index.FromFolders t (p.root.entry "evaluations") Manifest.evaluationShape
      Manifest.evaluation p.evaluations
  /-- The child agents that agents name are agents of the package. -/
  childAgents : ∀ a ∈ p.agents, ∀ manifest, a.manifest = some manifest →
    ∀ child ∈ manifest.childAgents.getD [], Text.isAllBlank child = false → p.HasAgent child
  /-- The toolsets that agents refer to are toolsets of the package. -/
  toolsetReferences : ∀ a ∈ p.agents, ∀ manifest, a.manifest = some manifest →
    ∀ toolset, manifest.RefersTo toolset → toolset ≠ "" → p.HasToolset toolset
  /-- The guardrails that the manifest names have manifests of their own, which hold mappings. -/
  guardrails : ∀ manifest, p.manifest = some manifest →
    ∀ reference ∈ manifest.guardrails.getD [], Text.isAllBlank reference = false →
      ∃ file fields text, Guardrail.resolve t p reference = .ok (some file) ∧
        Document.read t .json file = .ok (.record fields text)
  /-- The instruction of each agent that has one was read. -/
  instructions : ∀ a ∈ p.agents, t.isFile (a.dir.entry Index.instructionName) = .ok true →
    ∃ i ∈ p.instructions,
      Markup.parseFile t a.name (a.dir.entry Index.instructionName) = .ok i
  /-- The agents that instructions refer to are agents of the package. -/
  agentReferences : ∀ i ∈ p.instructions, i.isGlobal = false →
    ∀ r ∈ i.references, r.kind = .agent → p.HasAgent r.name
  /-- The files of instructions could be read, and no section is left open. -/
  sections : ∀ i ∈ p.instructions, i.isGlobal = false → i.readError = none ∧ i.unclosed = []
  /-- The calls that evaluations expect are not those of operations, and they are those of direct
  tools where there are any. -/
  toolCalls : ∀ e ∈ p.evaluations, ∀ manifest, e.manifest = some manifest →
    ∀ tool, manifest.Expects tool →
      p.inventory.isOperation tool = false ∧ (p.directTools ≠ [] → tool ∈ p.directTools)
  /-- The names that can be called are those in the manifests. -/
  inventory : p.inventory = Inventory.build p.agents p.toolsets p.scriptTools

end Package

end AgentPackage
