import AgentPackage.Proofs.Package.Entities

/-!
# The agents of a package

The agents of a package are the directories in its folder for agents, each under its own name. What
the listing holds of such a directory is asked for by names below the root.

## Main definitions

* `Package.AgentAt`: an agent stands for the directory of its name.

## Main results

* `Package.Indexed.agentAt`, `Package.Indexed.exists_agent`: the agents are those of the
  directories;
* `Package.Indexed.agent_eq`: agents are told apart by their manifests;
* `Package.Indexed.exists_instruction`: the instruction in the directory of an agent is read.
-/

namespace AgentPackage.Package

open Except FileTree Index

variable {t : FileTree} {p : Package} {name : String}

/-- The directory of an agent, in the folder for agents. -/
def agentDir (p : Package) (name : String) : Path :=
  (p.root.entry "agents").entry name

theorem agentDir_eq_below : p.agentDir name = below p.root ["agents", name] := by
  rw [below_cons, below_singleton]
  rfl

theorem agentDir_entry_eq_below (file : String) :
    (p.agentDir name).entry file = below p.root (["agents", name] ++ [file]) := by
  rw [below_concat, agentDir_eq_below]

/-- The agent stands for the directory of its name, and was read there. -/
structure AgentAt (t : FileTree) (p : Package) (a : Entity AgentManifest) : Prop where
  /-- The name can be that of a file. -/
  isFileName : IsFileName a.name
  /-- The directory of the agent has its name. -/
  dir : a.dir = p.agentDir a.name
  /-- The manifest lies in the directory and is named after it. -/
  manifestPath : a.manifestPath = a.dir.entry (a.name ++ ".json")
  /-- The directory is there. -/
  isDirectory : t.end? a.dir = some .directory
  /-- The agent is what loading the directory gives. -/
  loads : entity t "agent" Manifest.agentShape Manifest.agent a.dir = .ok a

namespace Indexed

variable (h : p.Indexed t) (ht : t.WellFormed) (hroot : p.root.Proper)

include h ht hroot

/-- Each agent stands for the directory of its name. -/
theorem agentAt {a : Entity AgentManifest} (ha : a ∈ p.agents) : AgentAt t p a := by
  obtain ⟨hname, hdir, hpath, hend, hload⟩ :=
    h.agentEntities.mem ht (Path.entry_proper hroot (by decide)) ha
  exact ⟨hname, hdir, hpath, hend, hload⟩

/-- Each directory in the folder for agents has its agent. -/
theorem exists_agent (hname : IsFileName name)
    (hend : t.end? (p.agentDir name) = some .directory) : ∃ a ∈ p.agents, a.name = name :=
  h.agentEntities.exists_mem ht (Path.entry_proper hroot (by decide)) hname hend

/-- No two agents have the same directory. -/
theorem nodup_agentDirs : (p.agents.map Entity.dir).Nodup :=
  h.agentEntities.nodup_dirs ht (Path.entry_proper hroot (by decide))

/-- Agents are told apart by their manifests. -/
theorem agent_eq {a b : Entity AgentManifest} (ha : a ∈ p.agents) (hb : b ∈ p.agents)
    (hpath : a.manifestPath = b.manifestPath) : a = b := by
  -- manifests with one path lie in one directory
  have hdir : a.dir = b.dir := by
    rw [(h.agentAt ht hroot ha).manifestPath, (h.agentAt ht hroot hb).manifestPath] at hpath
    have hparent : ∀ (dir : Path) (name : String), (dir.entry name).parent = dir := by
      intro dir name
      simp [Path.parent, Path.entry]
    rw [← hparent a.dir, hpath, hparent]
  exact List.inj_on_of_nodup_map (h.nodup_agentDirs ht hroot) ha hb hdir

omit hroot in
/-- The instruction in the directory of an agent is among those of the package if it is a file. -/
theorem exists_instruction {a : Entity AgentManifest} (ha : a ∈ p.agents) {content : ByteArray}
    (hend : t.end? (a.dir.entry instructionName) = some (.file content)) :
    ∃ i ∈ p.instructions,
      Markup.parseFile t a.name (a.dir.entry instructionName) = .ok i := by
  -- the model was built, so that it could be told whether it is a file
  obtain ⟨b, hb⟩ := exists_isFile_instruction h.instructions ha
  have htrue : b = true := by rw [ht.probe_eq_ok hb, hend]; rfl
  exact exists_mem_instructions h.instructions ha (htrue ▸ hb)

/-- A file in the directory of an agent does not lie in the root. -/
theorem agentFile_ne {a : Entity AgentManifest} (ha : a ∈ p.agents) (file name : String) :
    a.dir.entry file ≠ p.root.entry name := by
  rw [(h.agentAt ht hroot ha).dir]
  intro heq
  have hlength := congrArg (fun path : Path => path.names.length) heq
  simp [agentDir, Path.entry] at hlength

variable (habsolute : p.root.isAbsolute = true)

include habsolute

/-- The path of a file in the directory of an agent has proper names. -/
theorem agentFile_proper {a : Entity AgentManifest} (ha : a ∈ p.agents) {file : String}
    (hfile : Path.IsName file) :
    (a.dir.entry file).Proper ∧ (a.dir.entry file).isAbsolute = true := by
  have hat := h.agentAt ht hroot ha
  have hname : Path.IsName a.name := hat.isFileName.1
  rw [hat.dir]
  have hfolder : (p.root.entry "agents").Proper := Path.entry_proper hroot (by decide)
  exact ⟨Path.entry_proper (Path.entry_proper hfolder hname) hfile, habsolute⟩

/-- No two agents have manifests whose paths have the same text. -/
theorem nodup_agent_manifests : (p.agents.map fun a => a.manifestPath.text).Nodup :=
  h.agentEntities.nodup_manifests ht hroot habsolute (by decide)

/-- The path of an instruction has proper names. -/
theorem instruction_proper {i : Instruction} (hi : i ∈ p.instructions) :
    i.path.Proper ∧ i.path.isAbsolute = true := by
  rcases mem_instructions h.instructions hi with ⟨a, ha, -, hpath⟩ | ⟨-, hpath⟩
  · rw [hpath]
    exact h.agentFile_proper ht hroot habsolute ha (by decide)
  · rw [hpath]
    exact ⟨Path.entry_proper hroot (by decide), habsolute⟩

/-- No two instructions of a package have paths with the same text. -/
theorem nodup_instruction_paths : (p.instructions.map fun i => i.path.text).Nodup := by
  have hnodup : (p.agents.map (fun a => a.dir.entry instructionName) ++
      [p.root.entry globalInstructionName]).Nodup := by
    refine List.Nodup.append ?_ (List.nodup_singleton _) ?_
    · have hdirs := h.nodup_agentDirs ht hroot
      rw [show p.agents.map (fun a => a.dir.entry instructionName) =
        (p.agents.map Entity.dir).map fun d => d.entry instructionName by simp]
      refine hdirs.map fun d d' heq => ?_
      have hparent : ∀ dir : Path, (dir.entry instructionName).parent = dir := fun dir => by
        simp [Path.parent, Path.entry]
      rw [← hparent d, heq, hparent]
    · rintro path hpath hsingle
      obtain ⟨a, ha, rfl⟩ := List.mem_map.mp hpath
      exact h.agentFile_ne ht hroot ha _ _ (List.mem_singleton.mp hsingle)
  have hproper : ∀ i ∈ p.instructions, i.path.Proper ∧ i.path.isAbsolute = true :=
    fun i hi => h.instruction_proper ht hroot habsolute hi
  -- the paths differ, and they are told apart by their texts
  have hpaths := hnodup.sublist (paths_instructions h.instructions)
  rw [show (p.instructions.map fun i => i.path.text) =
    (p.instructions.map Instruction.path).map Path.text by simp]
  refine List.Nodup.map_on (fun path hpath path' hpath' heq => ?_) hpaths
  obtain ⟨i, hi, rfl⟩ := List.mem_map.mp hpath
  obtain ⟨i', hi', rfl⟩ := List.mem_map.mp hpath'
  exact Path.text_injective (hproper i hi).1 (hproper i' hi').1 (hproper i hi).2 (hproper i' hi').2
    heq

end Indexed

end AgentPackage.Package
