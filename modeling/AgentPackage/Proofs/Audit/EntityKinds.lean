import AgentPackage.Audit.Run
import AgentPackage.Proofs.Audit.Codes
import AgentPackage.Proofs.Audit.Schemas
import AgentPackage.Proofs.Package.Entities

/-!
# Kinds of entities

Agents, toolsets and evaluations have a rule each, which goes through the entities of the kind and
reports of one without a manifest the reason, and nothing else. What holds of the three kinds alike
is stated here once.

## Main definitions

* `EntityKind`: the kinds of entities that have a rule;
* `EntityKind.checks`: the entities of a kind, each with what is found about it;
* `Package.Unloaded`: a directory for an entity has no manifest, for a reason.

## Main results

* `EntityKind.findings_eq`: the rule about the entities goes through them;
* `EntityKind.unloaded_iff`: a directory has no manifest exactly if its entity tells so;
* `EntityKind.check_unloaded`: what is found about an entity without a manifest;
* `EntityKind.check_files`: the files that are looked at for an entity.
-/

namespace AgentPackage

open Findings Index FileTree

/-- The kinds of entities that have a rule. -/
inductive EntityKind where
  /-- Agents. -/
  | agent
  /-- Toolsets. -/
  | toolset
  /-- Evaluations. -/
  | evaluation
  deriving DecidableEq, Repr

namespace EntityKind

/-- The folder of a package with the directories of the kind. -/
def folder : EntityKind → String
  | agent => "agents"
  | toolset => "toolsets"
  | evaluation => "evaluations"

/-- The name of the kind in messages. -/
def label : EntityKind → String
  | agent => "agent"
  | toolset => "toolset"
  | evaluation => "evaluation"

/-- The rule about the entities of the kind. -/
def rule : EntityKind → Rule
  | agent => Rule.agents
  | toolset => Rule.toolsets
  | evaluation => Rule.evaluations

/-- The code of the error about an entity without a manifest. -/
def invalidCode : EntityKind → String
  | agent => "CES_AGENT_MANIFEST_INVALID"
  | toolset => "CES_TOOLSET_MANIFEST_INVALID"
  | evaluation => "CES_EVALUATION_MANIFEST_INVALID"

/-- The message of that error. -/
def message (name reason : String) : EntityKind → String
  | agent => "Agent manifest error for '" ++ name ++ "': " ++ reason
  | toolset => "Toolset '" ++ name ++ "' manifest error: " ++ reason
  | evaluation => "Evaluation '" ++ name ++ "' manifest error: " ++ reason

/-- The entities of the kind, each with what is found about it. -/
def checks (t : FileTree) (p : Package) : EntityKind → List (Entity Unit × Findings)
  | agent => p.agents.map fun a => (a.bare, Rule.agentFindings t p a)
  | toolset => p.toolsets.map fun s => (s.entity.bare, Rule.toolsetFindings t p s)
  | evaluation => p.evaluations.map fun e => (e.bare, Rule.evaluationFindings t p e)

/-- The entities of the kind, without the content of their manifests. -/
def entities (p : Package) : EntityKind → List (Entity Unit)
  | agent => p.agents.map Entity.bare
  | toolset => (p.toolsets.map Toolset.entity).map Entity.bare
  | evaluation => p.evaluations.map Entity.bare

end EntityKind

namespace Package

/-- A directory in a folder for entities has no manifest, for a reason with a text. -/
structure Unloaded (t : FileTree) (p : Package) (folder kind name reason : String) : Prop where
  /-- The name can be that of a file. -/
  isFileName : IsFileName name
  /-- The directory is there. -/
  isDirectory : t.end? ((p.root.entry folder).entry name) = some .directory
  /-- There is no manifest, for the reason. -/
  fails : FailsToLoad t kind (manifestPlace p.root folder name) reason

end Package

variable {t t₀ : FileTree} {p : Package} {settings : AuditSettings}

namespace Rule

variable {s : Toolset}

theorem noSchemaFile_files :
    (noSchemaFile t p s).Only fun i => i.file = s.entity.manifestPath.text :=
  only_check fun _ => only_when (only_errorAt fun _ => rfl)

/-- What is reported of a toolset is about its manifest, or about the file in which it has its
schema. -/
theorem toolsetFindings_files (h : (toolsetFindings t p s).failure = none) :
    (toolsetFindings t p s).Only fun i => i.file = s.entity.manifestPath.text ∨
      ∃ path, s.ResolvesTo t p path ∧ i ∈ (schemaFile t path).issues := by
  unfold toolsetFindings at h ⊢
  split
  · exact only_error (.inl rfl)
  · rename_i herror
    rw [herror] at h
    refine only_append (only_fieldErrors fun _ _ => .inl rfl) ?_
    rcases toolsetSchema_cases (failure_append_eq_none.mp h).2 with
      ⟨path, hpath, heq⟩ | ⟨-, text, heq⟩ | ⟨-, -, heq⟩
    · rw [heq]
      exact fun i hi => .inr ⟨path, hpath, hi⟩
    · rw [heq]
      exact only_append (only_errorAt fun _ => .inl rfl)
        (noSchemaFile_files.mono fun i hi => .inl hi)
    · rw [heq]
      exact noSchemaFile_files.mono fun i hi => .inl hi

end Rule

namespace EntityKind

variable {k : EntityKind}

theorem isName_folder (k : EntityKind) : Path.IsName k.folder := by
  cases k <;> decide

theorem folder_injective : Function.Injective folder := by
  intro k k' h
  cases k <;> cases k' <;> simp [folder] at h ⊢

/-- The rule about the entities goes through them. -/
theorem findings_eq (k : EntityKind) :
    k.rule.findings t p settings = all (k.checks t p) Prod.snd := by
  cases k <;> rw [checks, all_map] <;> rfl

theorem map_fst_checks : (k.checks t p).map Prod.fst = k.entities p := by
  cases k <;> simp [checks, entities]

/-- The entities of a kind are those of the directories in the folder of the kind. -/
theorem exists_entitiesOf (hindexed : p.Indexed t₀) (k : EntityKind) :
    ∃ (α : Type) (shape : RecordShape Shape) (build : Fields → α) (es : List (Entity α)),
      EntitiesOf t₀ p.root k.folder k.label shape build es ∧ k.entities p = es.map Entity.bare := by
  cases k with
  | agent => exact ⟨_, _, _, _, hindexed.agentEntities, rfl⟩
  | toolset => exact ⟨_, _, _, _, hindexed.toolsetEntities, rfl⟩
  | evaluation => exact ⟨_, _, _, _, hindexed.evaluationEntities, rfl⟩

section Entities

variable (hindexed : p.Indexed t₀) (ht : t₀.WellFormed) (hroot : p.root.Proper)

include hindexed ht hroot

theorem entityAt {e : Entity Unit} (he : e ∈ k.entities p) :
    EntityAt t₀ p.root k.folder k.label e := by
  obtain ⟨α, shape, build, es, hes, heq⟩ := k.exists_entitiesOf hindexed
  rw [heq] at he
  obtain ⟨e', hmem, rfl⟩ := List.mem_map.mp he
  exact (hes.entityAt ht (Path.entry_proper hroot k.isName_folder) hmem).bare

theorem exists_mem_entities {name : String} (hname : IsFileName name)
    (hend : t₀.end? ((p.root.entry k.folder).entry name) = some .directory) :
    ∃ e ∈ k.entities p, e.name = name := by
  obtain ⟨α, shape, build, es, hes, heq⟩ := k.exists_entitiesOf hindexed
  obtain ⟨e, he, rfl⟩ := hes.exists_mem ht (Path.entry_proper hroot k.isName_folder) hname hend
  exact ⟨e.bare, heq ▸ List.mem_map_of_mem he, rfl⟩

/-- A directory of the kind has no manifest exactly if its entity tells so. -/
theorem unloaded_iff {name reason : String} :
    p.Unloaded t₀ k.folder k.label name reason ↔
      ∃ e ∈ k.entities p, e.name = name ∧ e.error = some reason := by
  constructor
  · intro h
    obtain ⟨e, he, rfl⟩ := exists_mem_entities hindexed ht hroot h.isFileName h.isDirectory
    have hat := entityAt hindexed ht hroot he
    exact ⟨e, he, rfl, (hat.error reason).mpr (hat.manifestPath ▸ h.fails)⟩
  · rintro ⟨e, he, rfl, hreason⟩
    have hat := entityAt hindexed ht hroot he
    exact ⟨hat.isFileName, hat.isDirectory, hat.manifestPath ▸ (hat.error reason).mp hreason⟩

theorem nodup_manifests (habsolute : p.root.isAbsolute = true) :
    ((k.entities p).map fun e => e.manifestPath.text).Nodup := by
  obtain ⟨α, shape, build, es, hes, heq⟩ := k.exists_entitiesOf hindexed
  rw [heq, List.map_map]
  exact hes.nodup_manifests ht hroot habsolute k.isName_folder

/-- Of an entity without a manifest the reason is reported, and nothing else. -/
theorem check_unloaded {x : Entity Unit × Findings} (hx : x ∈ k.checks t p) {reason : String}
    (hreason : x.1.error = some reason) :
    x.2 = error k.invalidCode (k.message x.1.name reason) x.1.manifestPath (some 1) := by
  have he : x.1 ∈ k.entities p := map_fst_checks ▸ List.mem_map_of_mem hx
  have hmanifest := (entityAt hindexed ht hroot he).manifest reason hreason
  cases k with
  | agent =>
    obtain ⟨a, -, rfl⟩ := List.mem_map.mp hx
    show Rule.agentFindings t p a = _
    rw [Rule.agentFindings, show a.error = some reason from hreason,
      show a.manifest = none from Option.map_eq_none_iff.mp hmanifest]
    exact append_nothing _
  | toolset =>
    obtain ⟨s, -, rfl⟩ := List.mem_map.mp hx
    show Rule.toolsetFindings t p s = _
    rw [Rule.toolsetFindings, show s.entity.error = some reason from hreason]
    rfl
  | evaluation =>
    obtain ⟨e, -, rfl⟩ := List.mem_map.mp hx
    show Rule.evaluationFindings t p e = _
    rw [Rule.evaluationFindings, show e.error = some reason from hreason]
    rfl

end Entities

/-- What is found about an entity is about its manifest, or about the schema of a toolset. -/
theorem check_files {x : Entity Unit × Findings} (hx : x ∈ k.checks t p)
    (hfailure : x.2.failure = none) :
    x.2.Only fun i => i.file = x.1.manifestPath.text ∨
      ∃ s ∈ p.toolsets, ∃ path, s.ResolvesTo t p path ∧ i ∈ (Rule.schemaFile t path).issues := by
  cases k with
  | agent =>
    obtain ⟨a, -, rfl⟩ := List.mem_map.mp hx
    exact Rule.agentFindings_only.mono fun i hi => .inl hi.2
  | toolset =>
    obtain ⟨s, hs, rfl⟩ := List.mem_map.mp hx
    refine (Rule.toolsetFindings_files hfailure).mono fun i hi => ?_
    exact hi.imp_right fun ⟨path, hpath, hmem⟩ => ⟨s, hs, path, hpath, hmem⟩
  | evaluation =>
    obtain ⟨e, -, rfl⟩ := List.mem_map.mp hx
    exact Rule.evaluationFindings_only.mono fun i hi => .inl hi.2

end EntityKind

end AgentPackage
