import AgentPackage.Package.Index
import AgentPackage.Proofs.Manifest.Cleaning

/-!
# What indexing gives

A package is indexed step by step, and every step may fail. `index_eq_ok_iff` says what is known of
a model once it is there: each part of it is what its step gave.

## Main definitions

* `Package.Indexed`: each part of a model is what the file tree gives for it;
* `Entity.Loaded`: the manifest of an entity was read from its file and loaded.

## Main results

* `Package.index_eq_ok_iff`: a package has a model exactly when all steps succeed;
* `Index.entity_eq_ok`: an entity either has its manifest or says why it has none.
-/

namespace AgentPackage

open Except

namespace Package

/-- Each part of a model is what the file tree gives for it. -/
structure Indexed (t : FileTree) (p : Package) : Prop where
  /-- It is known whether there is a YAML manifest. -/
  hasAppYaml :
    access (p.root.entry appYamlName) (t.isFile (p.root.entry appYamlName)) = .ok p.hasAppYaml
  /-- It is known whether there is a JSON manifest. -/
  hasAppJson :
    access (p.root.entry appJsonName) (t.isFile (p.root.entry appJsonName)) = .ok p.hasAppJson
  /-- The manifest file that counts was read. -/
  app : Index.appPart t p.manifestPath? = .ok ⟨p.document, p.manifest, p.fieldIssues⟩
  /-- The files and directories were listed. -/
  listing : Index.listing t p.root = .ok ⟨p.files, p.directories⟩
  /-- The root directory was listed. -/
  topLevel : Index.topLevel t p.root = .ok (p.topLevelFiles, p.topLevelDirs)
  /-- The agents were loaded. -/
  agents : Index.agents t p.root = .ok p.agents
  /-- The toolsets were loaded. -/
  toolsets : Index.toolsets t p.root = .ok p.toolsets
  /-- The evaluations were loaded. -/
  evaluations : Index.evaluations t p.root = .ok p.evaluations
  /-- The script tools were loaded. -/
  scriptTools : Index.scriptTools t p.root = .ok p.scriptTools
  /-- The instructions were read. -/
  instructions : Index.instructions t p.root p.agents = .ok p.instructions
  /-- The folders of guardrails were listed. -/
  guardrailDirs : Index.subdirectories t (p.root.entry "guardrails") = .ok p.guardrailDirs
  /-- The environment file was read. -/
  environment : Index.environment? t p.root = .ok p.environment
  /-- The names that can be called were collected. -/
  inventory : p.inventory = Inventory.build p.agents p.toolsets p.scriptTools

/-- The manifest file that counts, from what is known of the two files. -/
theorem manifestPath?_eq (p : Package) :
    p.manifestPath? =
      if p.hasAppYaml then some (p.root.entry appYamlName)
      else if p.hasAppJson then some (p.root.entry appJsonName)
      else none := by
  unfold manifestPath? manifestFile
  cases p.hasAppYaml with
  | true => rfl
  | false => cases p.hasAppJson <;> rfl

/-- A package has a model exactly when all steps of indexing succeed, and the model is made of
what they give. -/
theorem index_eq_ok_iff {t : FileTree} {root : Path} {p : Package} :
    Package.index t root = .ok p ↔ p.root = root ∧ p.Indexed t := by
  unfold Package.index
  simp only [bind_eq_ok, pure_eq_ok]
  constructor
  · -- the results of the steps in their order, named after the parts of the model
    rintro ⟨yaml, hyaml, json, hjson, app, happ, listing, hlisting, topLevel, htopLevel, agents,
      hagents, toolsets, htoolsets, evaluations, hevaluations, scriptTools, hscriptTools,
      instructions, hinstructions, guardrailDirs, hguardrailDirs, environment, henvironment, rfl⟩
    refine ⟨rfl, hyaml, hjson, ?_, hlisting, htopLevel, hagents, htoolsets, hevaluations,
      hscriptTools, hinstructions, hguardrailDirs, henvironment, rfl⟩
    rw [manifestPath?_eq]
    exact happ
  · rintro ⟨rfl, h⟩
    refine ⟨_, h.hasAppYaml, _, h.hasAppJson, _, manifestPath?_eq p ▸ h.app, _, h.listing, _,
      h.topLevel, _, h.agents, _, h.toolsets, _, h.evaluations, _, h.scriptTools, _,
      h.instructions, _, h.guardrailDirs, _, h.environment, ?_⟩
    rw [← h.inventory]

/-- A model that was built is that of the directory its path leads to. -/
theorem build_eq_ok_iff {t : FileTree} {cwd path : Path} {p : Package} :
    Package.build t cwd path = .ok p ↔ t.resolve cwd path = .ok p.root ∧ p.Indexed t := by
  unfold Package.build
  simp only [bind_eq_ok, index_eq_ok_iff]
  constructor
  · rintro ⟨root, hroot, rfl, h⟩
    exact ⟨hroot, h⟩
  · rintro ⟨hroot, h⟩
    exact ⟨_, hroot, rfl, h⟩

end Package

/-- The manifest of an entity is what the mapping in its file loads as. -/
def Entity.Loaded {α : Type} (t : FileTree) (shape : RecordShape Shape) (build : Fields → α)
    (e : Entity α) : Prop :=
  ∃ fields text manifest,
    Document.read t .json e.manifestPath = .ok (.record fields text) ∧
      Manifest.load shape build fields = .ok (manifest, e.fieldIssues) ∧
      e.manifest = some manifest

namespace Index

variable {t : FileTree}

section Entity

variable {α : Type} {kind : String} {shape : RecordShape Shape} {build : Fields → α} {dir : Path}
  {e : Entity α}

/-- The places of an entity are those that its folder gives. -/
structure StandsFor (dir : Path) (e : Entity α) : Prop where
  /-- The entity has the name of the folder. -/
  name : e.name = dir.name
  /-- The folder is that of the entity. -/
  folder : e.dir = dir
  /-- The manifest lies in the folder and is named after it. -/
  manifestPath : e.manifestPath = dir.entry (dir.name ++ ".json")

/-- An entity stands for its folder, and it either has its manifest or says why it has none. -/
theorem entity_eq_ok (h : entity t kind shape build dir = .ok e) :
    StandsFor dir e ∧
      ((∃ reason, e.error = some reason) ∨ (e.error = none ∧ e.Loaded t shape build)) := by
  unfold entity at h
  obtain ⟨isFile, hfile, h⟩ := bind_eq_ok.mp h
  cases isFile with
  | false =>
    -- without a manifest file the entity says that it is missing
    obtain rfl := pure_eq_ok.mp h
    exact ⟨⟨rfl, rfl, rfl⟩, .inl ⟨_, rfl⟩⟩
  | true =>
    obtain ⟨document, hread, h⟩ := bind_eq_ok.mp h
    cases hdocument : document with
    | record fields text =>
      rw [hdocument] at h hread
      obtain ⟨⟨manifest, issues⟩, hload, h⟩ := bind_eq_ok.mp h
      obtain rfl := pure_eq_ok.mp h
      exact ⟨⟨rfl, rfl, rfl⟩, .inr ⟨rfl, fields, text, manifest, hread, hload, rfl⟩⟩
    | _ =>
      -- a document that is not a mapping gives its error to the entity
      rw [hdocument] at h
      obtain rfl := pure_eq_ok.mp h
      exact ⟨⟨rfl, rfl, rfl⟩, .inl ⟨_, rfl⟩⟩

/-- An entity that says why it has no manifest has none. -/
theorem manifest_eq_none (h : entity t kind shape build dir = .ok e) {reason : String}
    (hreason : e.error = some reason) : e.manifest = none := by
  unfold entity at h
  obtain ⟨isFile, -, h⟩ := bind_eq_ok.mp h
  cases isFile with
  | false =>
    obtain rfl := pure_eq_ok.mp h
    rfl
  | true =>
    obtain ⟨document, -, h⟩ := bind_eq_ok.mp h
    cases document with
    | record fields text =>
      obtain ⟨loaded, -, h⟩ := bind_eq_ok.mp h
      obtain rfl := pure_eq_ok.mp h
      cases hreason
    | _ =>
      obtain rfl := pure_eq_ok.mp h
      rfl

/-- An entity that has its manifest has no error, and the manifest was read from its file. -/
theorem loaded_of_manifest (h : entity t kind shape build dir = .ok e) {manifest : α}
    (hmanifest : e.manifest = some manifest) : e.error = none ∧ e.Loaded t shape build := by
  rcases (entity_eq_ok h).2 with ⟨reason, hreason⟩ | hloaded
  · cases hmanifest.symm.trans (manifest_eq_none h hreason)
  · exact hloaded

end Entity

/-- What a search in a list of entries ends with is an entry that passes the test. -/
theorem firstM_eq_some {test : FileTree.Listed → Except Failure Bool}
    {listed : List FileTree.Listed} {l : FileTree.Listed} (h : firstM test listed = .ok (some l)) :
    l ∈ listed ∧ test l = .ok true := by
  induction listed with
  | nil => cases h
  | cons x xs ih =>
    obtain ⟨b, hb, h⟩ := bind_eq_ok.mp h
    cases b with
    | true =>
      cases pure_eq_ok.mp h
      exact ⟨List.mem_cons_self, hb⟩
    | false => exact ⟨List.mem_cons_of_mem x (ih h).1, (ih h).2⟩

/-- The first schema in a directory has the extension of a schema. -/
theorem extension_of_firstSchema {dir path : Path} (h : firstSchema t dir = .ok (some path)) :
    path.extension ∈ schemaExtensions := by
  unfold firstSchema at h
  obtain ⟨listed, -, h⟩ := bind_eq_ok.mp h
  obtain ⟨found, hfound, h⟩ := bind_eq_ok.mp h
  obtain ⟨l, rfl, rfl⟩ := Option.map_eq_some_iff.mp (pure_eq_ok.mp h)
  have hschema := (firstM_eq_some hfound).2
  unfold isSchema at hschema
  obtain ⟨isFile, -, hschema⟩ := bind_eq_ok.mp hschema
  have hboth := pure_eq_ok.mp hschema
  rw [Bool.and_eq_true, List.contains_iff_mem] at hboth
  exact hboth.2

/-- An access error becomes a failure, an answer stays. -/
theorem access_eq_ok_iff {α : Type} {path : Path} {x : Except AccessError α} {a : α} :
    Package.access path x = .ok a ↔ x = .ok a := by
  cases x with
  | ok b => simp [Package.access]
  | error e => simp [Package.access]

/-- The environment file is read if it exists. -/
theorem environment?_eq_ok_iff {root : Path} {e? : Option Environment} :
    environment? t root = .ok e? ↔
      ∃ isFile, t.isFile (root.entry environmentName) = .ok isFile ∧
        ((isFile = false ∧ e? = none) ∨
          (isFile = true ∧ ∃ d, Document.read t .json (root.entry environmentName) = .ok d ∧
            e? = some ⟨root.entry environmentName, d⟩)) := by
  unfold environment?
  constructor
  · intro h
    obtain ⟨isFile, hfile, h⟩ := bind_eq_ok.mp h
    refine ⟨isFile, access_eq_ok_iff.mp hfile, ?_⟩
    cases isFile with
    | false => exact .inl ⟨rfl, (pure_eq_ok.mp h).symm⟩
    | true =>
      obtain ⟨d, hread, h⟩ := bind_eq_ok.mp h
      exact .inr ⟨rfl, d, hread, (pure_eq_ok.mp h).symm⟩
  · rintro ⟨isFile, hfile, ⟨rfl, rfl⟩ | ⟨rfl, d, hread, rfl⟩⟩
    · exact bind_eq_ok.mpr ⟨_, access_eq_ok_iff.mpr hfile, rfl⟩
    · exact bind_eq_ok.mpr ⟨_, access_eq_ok_iff.mpr hfile, bind_eq_ok.mpr ⟨d, hread, rfl⟩⟩

/-- The manifest of a package is what the mapping in its file loads as; without a mapping there is
only the document. -/
theorem appPart_eq_ok {path : Path} {part : AppPart} (h : appPart t (some path) = .ok part) :
    ∃ document, Document.readByExtension t path = .ok document ∧ part.document = some document ∧
      ((∃ reason, document.error? = some reason) ∨
        ∃ fields text manifest, document = .record fields text ∧
          Manifest.load Manifest.appShape Manifest.app fields = .ok (manifest, part.fieldIssues) ∧
          part.manifest = some manifest) := by
  unfold appPart at h
  obtain ⟨document, hread, h⟩ := bind_eq_ok.mp h
  cases hdocument : document with
  | record fields text =>
    rw [hdocument] at h hread
    obtain ⟨⟨manifest, issues⟩, hload, h⟩ := bind_eq_ok.mp h
    obtain rfl := pure_eq_ok.mp h
    exact ⟨_, hread, rfl, .inr ⟨fields, text, manifest, rfl, hload, rfl⟩⟩
  | _ =>
    rw [hdocument] at h hread
    obtain rfl := pure_eq_ok.mp h
    exact ⟨_, hread, rfl, .inl ⟨_, rfl⟩⟩

/-- A package that has its manifest has it from the mapping in its file. -/
theorem exists_of_appPart_manifest {path : Path} {part : AppPart}
    (h : appPart t (some path) = .ok part) {m : AppManifest} (hm : part.manifest = some m) :
    ∃ fields text, part.document = some (.record fields text) ∧
      Manifest.load Manifest.appShape Manifest.app fields = .ok (m, part.fieldIssues) := by
  unfold appPart at h
  obtain ⟨document, -, h⟩ := bind_eq_ok.mp h
  cases document with
  | record fields text =>
    obtain ⟨⟨manifest, issues⟩, hload, h⟩ := bind_eq_ok.mp h
    obtain rfl := pure_eq_ok.mp h
    obtain rfl := Option.some.inj hm
    exact ⟨fields, text, rfl, hload⟩
  | _ =>
    -- without a mapping there is no manifest
    obtain rfl := pure_eq_ok.mp h
    cases hm

section Folders

variable {root : Path}

/-- The agents are the entities of the folders for agents. -/
theorem agents_eq_ok_iff {es : List (Entity AgentManifest)} :
    agents t root = .ok es ↔
      ∃ dirs, subdirectories t (root.entry "agents") = .ok dirs ∧
        List.Forall₂ (fun dir e =>
          entity t "agent" Manifest.agentShape Manifest.agent dir = .ok e) dirs es := by
  unfold agents
  simp only [bind_eq_ok, mapM_eq_ok]

/-- The evaluations are the entities of the folders for evaluations. -/
theorem evaluations_eq_ok_iff {es : List (Entity EvaluationManifest)} :
    evaluations t root = .ok es ↔
      ∃ dirs, subdirectories t (root.entry "evaluations") = .ok dirs ∧
        List.Forall₂ (fun dir e =>
          entity t "evaluation" Manifest.evaluationShape Manifest.evaluation dir = .ok e)
          dirs es := by
  unfold evaluations
  simp only [bind_eq_ok, mapM_eq_ok]

/-- The script tools are the entities of the folders for tools. -/
theorem scriptTools_eq_ok_iff {es : List (Entity ScriptToolManifest)} :
    scriptTools t root = .ok es ↔
      ∃ dirs, subdirectories t (root.entry "tools") = .ok dirs ∧
        List.Forall₂ (fun dir e =>
          entity t "script tool" Manifest.scriptToolShape Manifest.scriptTool dir = .ok e)
          dirs es := by
  unfold scriptTools
  simp only [bind_eq_ok, mapM_eq_ok]

/-- A toolset is the entity of its folder with the schema that lies there. -/
theorem toolset_eq_ok_iff {dir : Path} {s : Toolset} :
    toolset t dir = .ok s ↔
      entity t "toolset" Manifest.toolsetShape Manifest.toolsetManifest dir = .ok s.entity ∧
        s.schemaDir = dir.entry schemaDirName ∧
        firstSchema t (dir.entry schemaDirName) = .ok s.detectedSchema := by
  unfold toolset
  simp only [bind_eq_ok, pure_eq_ok]
  constructor
  · rintro ⟨e, he, schema, hschema, rfl⟩
    exact ⟨he, rfl, hschema⟩
  · rintro ⟨he, hdir, hschema⟩
    exact ⟨_, he, _, hschema, by rw [← hdir]⟩

/-- The toolsets are those of the folders for toolsets. -/
theorem toolsets_eq_ok_iff {ss : List Toolset} :
    toolsets t root = .ok ss ↔
      ∃ dirs, subdirectories t (root.entry "toolsets") = .ok dirs ∧
        List.Forall₂ (fun dir s => toolset t dir = .ok s) dirs ss := by
  unfold toolsets
  simp only [bind_eq_ok, mapM_eq_ok]

/-- Reading the instructions tells whether that of an agent is a file. -/
theorem exists_isFile_instruction {agents : List (Entity AgentManifest)} {is : List Instruction}
    (h : instructions t root agents = .ok is) {a : Entity AgentManifest} (ha : a ∈ agents) :
    ∃ b, t.isFile (a.dir.entry instructionName) = .ok b := by
  unfold instructions at h
  obtain ⟨own, hown, -⟩ := bind_eq_ok.mp h
  obtain ⟨o, -, hread⟩ := exists_of_mapM_eq_ok hown ha
  obtain ⟨b, hb, -⟩ := bind_eq_ok.mp hread
  exact ⟨b, access_eq_ok_iff.mp hb⟩

/-- The instruction of an agent is among those of the package if its file exists. -/
theorem exists_mem_instructions {agents : List (Entity AgentManifest)} {is : List Instruction}
    (h : instructions t root agents = .ok is) {a : Entity AgentManifest} (ha : a ∈ agents)
    (hfile : t.isFile (a.dir.entry instructionName) = .ok true) :
    ∃ i ∈ is, Markup.parseFile t a.name (a.dir.entry instructionName) = .ok i := by
  unfold instructions at h
  simp only [bind_eq_ok, pure_eq_ok] at h
  obtain ⟨own, hown, whole, -, rfl⟩ := h
  obtain ⟨o, ho, hread⟩ := exists_of_mapM_eq_ok hown ha
  unfold instruction? at hread
  rw [hfile] at hread
  obtain ⟨isFile, hisFile, hread⟩ := bind_eq_ok.mp hread
  cases hisFile
  obtain ⟨i, hi, hread⟩ := bind_eq_ok.mp hread
  obtain rfl := pure_eq_ok.mp hread
  refine ⟨i, ?_, hi⟩
  -- the agents' own instructions come before the global one
  rw [List.mem_filterMap]
  exact ⟨some i, List.mem_append_left _ ho, rfl⟩

/-- An instruction is what its file was parsed to. -/
theorem parseFile_of_instruction? {agentName : String} {path : Path} {i : Instruction}
    (h : instruction? t agentName path = .ok (some i)) :
    Markup.parseFile t agentName path = .ok i := by
  unfold instruction? at h
  obtain ⟨isFile, -, h⟩ := bind_eq_ok.mp h
  cases isFile with
  | false => cases pure_eq_ok.mp h
  | true =>
    obtain ⟨i', hparse, h⟩ := bind_eq_ok.mp h
    obtain rfl := Option.some.inj (pure_eq_ok.mp h)
    exact hparse

/-- An instruction has the name and the path that it was read for. -/
theorem instruction?_eq_ok_some {agentName : String} {path : Path} {i : Instruction}
    (h : instruction? t agentName path = .ok (some i)) : i.agentName = agentName ∧ i.path = path := by
  have hparse := parseFile_of_instruction? h
  -- a file that cannot be read gives an instruction as well
  unfold Markup.parseFile at hparse
  split at hparse <;> cases hparse <;> exact ⟨rfl, rfl⟩

section Instructions

variable {agents : List (Entity AgentManifest)} {is : List Instruction}
  (h : instructions t root agents = .ok is)

include h

/-- An instruction was read for an agent, or for the whole package. -/
theorem read_of_mem_instructions {i : Instruction} (hi : i ∈ is) :
    (∃ a ∈ agents, instruction? t a.name (a.dir.entry instructionName) = .ok (some i)) ∨
      instruction? t globalAgentName (root.entry globalInstructionName) = .ok (some i) := by
  unfold instructions at h
  simp only [bind_eq_ok, pure_eq_ok] at h
  obtain ⟨own, hown, whole, hwhole, rfl⟩ := h
  obtain ⟨o, ho, rfl⟩ := List.mem_filterMap.mp hi
  rcases List.mem_append.mp ho with ho | ho
  · exact .inl ((mapM_eq_ok.mp hown).exists_of_mem_right ho)
  · obtain rfl := List.mem_singleton.mp ho
    exact .inr hwhole

/-- An instruction is that of an agent, or the global one. -/
theorem mem_instructions {i : Instruction} (hi : i ∈ is) :
    (∃ a ∈ agents, i.agentName = a.name ∧ i.path = a.dir.entry instructionName) ∨
      (i.agentName = globalAgentName ∧ i.path = root.entry globalInstructionName) := by
  rcases read_of_mem_instructions h hi with ⟨a, ha, hread⟩ | hread
  · exact .inl ⟨a, ha, instruction?_eq_ok_some hread⟩
  · exact .inr (instruction?_eq_ok_some hread)

/-- Every instruction is what its file was parsed to. -/
theorem parseFile_of_mem_instructions {i : Instruction} (hi : i ∈ is) :
    Markup.parseFile t i.agentName i.path = .ok i := by
  have hparse : ∀ agentName path, instruction? t agentName path = .ok (some i) →
      Markup.parseFile t i.agentName i.path = .ok i := by
    intro agentName path hread
    obtain ⟨rfl, rfl⟩ := instruction?_eq_ok_some hread
    exact parseFile_of_instruction? hread
  rcases read_of_mem_instructions h hi with ⟨a, -, hread⟩ | hread
  · exact hparse _ _ hread
  · exact hparse _ _ hread

/-- The instructions lie in the directories of the agents, one at most in each, and in the root. -/
theorem paths_instructions :
    (is.map Instruction.path).Sublist
      (agents.map (fun a => a.dir.entry instructionName) ++ [root.entry globalInstructionName]) := by
  unfold instructions at h
  simp only [bind_eq_ok, pure_eq_ok] at h
  obtain ⟨own, hown, whole, hwhole, rfl⟩ := h
  have hreads : List.Forall₂ (fun path o => ∀ i, o = some i → i.path = path)
      (agents.map (fun a => a.dir.entry instructionName) ++ [root.entry globalInstructionName])
      (own ++ [whole]) := by
    refine List.rel_append (List.forall₂_map_left_iff.mpr ?_) (.cons ?_ .nil)
    · refine (mapM_eq_ok.mp hown).imp fun a o hread i hi => ?_
      exact (instruction?_eq_ok_some (hi ▸ hread)).2
    · exact fun i hi => (instruction?_eq_ok_some (hi ▸ hwhole)).2
  -- along the paths; what was not there is left out
  generalize agents.map (fun a => a.dir.entry instructionName) ++
    [root.entry globalInstructionName] = paths at hreads ⊢
  generalize own ++ [whole] = read at hreads ⊢
  induction hreads with
  | nil => exact .slnil
  | @cons path o paths os hpath _ ih =>
    cases o with
    | none => exact ih.cons path
    | some i =>
      show (i.path :: (os.filterMap id).map Instruction.path).Sublist _
      rw [hpath i rfl]
      exact ih.cons_cons path

end Instructions

end Folders

end Index

/-- A package with a manifest has the file of one. -/
theorem Package.Indexed.exists_manifestPath {t : FileTree} {p : Package} (h : p.Indexed t)
    {m : AppManifest} (hm : p.manifest = some m) : ∃ path, p.manifestPath? = some path := by
  cases hpath : p.manifestPath? with
  | some path => exact ⟨path, rfl⟩
  | none =>
    -- without a file there is no manifest
    have happ := h.app
    rw [hpath] at happ
    have hnone : none = p.manifest := congrArg Index.AppPart.manifest (Except.pure_eq_ok.mp happ)
    cases hnone.trans hm

end AgentPackage
