import AgentPackage.Proofs.Package.Index
import AgentPackage.Proofs.Package.Outline

/-!
# Building a model again

When the content of one file is replaced and the model of a package is built again, the new model
has the files, directories, agents and toolsets of the old one, in the same order. Entities whose
manifests are not in the file are the same.

## Main definitions

* `Package.Alike`: models with the same files, directories and names;
* `Entity.Rebuilt`, `Toolset.Rebuilt`: an entity or a toolset of the old model with what became of
  it.

## Main results

* `Package.Indexed.alike`: the new model is like the old one;
* `Package.Indexed.forall₂_agents`, `Package.Indexed.forall₂_toolsets`: agents and toolsets of the
  two models, side by side.
-/

namespace AgentPackage

open Except

variable {t : FileTree} {q : Place} {content : ByteArray}

/-- Models of packages with the same files and directories and with the same names of agents and
toolsets. -/
structure Package.Alike (p p' : Package) : Prop where
  /-- The roots are the same. -/
  root : p'.root = p.root
  /-- The files are the same. -/
  files : p'.files = p.files
  /-- The directories are the same. -/
  directories : p'.directories = p.directories
  /-- The agents have the same names. -/
  agentNames : p'.agentNames = p.agentNames
  /-- The toolsets have the same names. -/
  toolsetNames : p'.toolsetNames = p.toolsetNames

section Rebuilt

/-- `e'` is what `e` became: it stands for the same folder, and it is the same unless its manifest
is in the file. -/
structure Entity.Rebuilt {α : Type} (t : FileTree) (q : Place) (e e' : Entity α) : Prop where
  /-- The name is the same. -/
  name : e'.name = e.name
  /-- The manifest lies at the same path. -/
  manifestPath : e'.manifestPath = e.manifestPath
  /-- The entity is the same unless its manifest is in the file. -/
  eq_of_ne : t.locate e.manifestPath ≠ .ok q → e' = e

/-- `s'` is what `s` became. -/
structure Toolset.Rebuilt (t : FileTree) (q : Place) (s s' : Toolset) : Prop where
  /-- The entity is what the entity became. -/
  entity : Entity.Rebuilt t q s.entity s'.entity
  /-- The folder for the schema is the same. -/
  schemaDir : s'.schemaDir = s.schemaDir
  /-- The schema in that folder lies at the same path. -/
  detectedSchema : s'.detectedSchema = s.detectedSchema

theorem Toolset.Rebuilt.eq_of_ne {s s' : Toolset} (h : Toolset.Rebuilt t q s s')
    (hne : t.locate s.entity.manifestPath ≠ .ok q) : s' = s := by
  cases s
  cases s'
  obtain ⟨hentity, rfl, rfl⟩ := h
  obtain rfl := hentity.eq_of_ne hne
  rfl

/-- The entities of one folder before and after. -/
theorem Index.entity_rebuilt {α : Type} {kind : String} {shape : RecordShape Shape}
    {build : Fields → α} {dir : Path} {e e' : Entity α}
    (h : entity t kind shape build dir = .ok e)
    (h' : entity (t.withContent q content) kind shape build dir = .ok e') :
    Entity.Rebuilt t q e e' := by
  obtain ⟨hplaces, -⟩ := entity_eq_ok h
  obtain ⟨hplaces', -⟩ := entity_eq_ok h'
  refine ⟨hplaces'.name.trans hplaces.name.symm,
    hplaces'.manifestPath.trans hplaces.manifestPath.symm, fun hne => ?_⟩
  -- away from the file the same steps were taken with the same results
  rw [hplaces.manifestPath] at hne
  rw [entity_withContent hne, h] at h'
  exact (Except.ok.inj h').symm

/-- The toolsets of one folder before and after. -/
theorem Index.toolset_rebuilt {dir : Path} {s s' : Toolset} (h : toolset t dir = .ok s)
    (h' : toolset (t.withContent q content) dir = .ok s') : Toolset.Rebuilt t q s s' := by
  obtain ⟨hentity, hdir, hschema⟩ := toolset_eq_ok_iff.mp h
  obtain ⟨hentity', hdir', hschema'⟩ := toolset_eq_ok_iff.mp h'
  rw [firstSchema_withContent, hschema] at hschema'
  exact ⟨entity_rebuilt hentity hentity', hdir'.trans hdir.symm, (Except.ok.inj hschema').symm⟩

end Rebuilt

/-- What two lists have in common with a third they have in common with each other. -/
theorem forall₂_of_common {α β γ : Type} {R : γ → α → Prop} {S : γ → β → Prop}
    {T : α → β → Prop} {zs : List γ} {xs : List α} {ys : List β} (hR : List.Forall₂ R zs xs)
    (hS : List.Forall₂ S zs ys) (h : ∀ z x y, R z x → S z y → T x y) :
    List.Forall₂ T xs ys := by
  -- the common list is on the left of both relations, so they do not compose as they are
  induction hR generalizing ys with
  | nil => cases hS; exact .nil
  | cons hzx _ ih =>
    cases hS with
    | cons hzy hS => exact .cons (h _ _ _ hzx hzy) (ih hS)

/-- What was made of the folders in a directory before and after, side by side. -/
theorem Index.forall₂_folders {α β : Type} {dir : Path} {R : Path → α → Prop}
    {S : Path → β → Prop} {T : α → β → Prop} {xs : List α} {ys : List β}
    (h : ∃ dirs, subdirectories t dir = .ok dirs ∧ List.Forall₂ R dirs xs)
    (h' : ∃ dirs, subdirectories (t.withContent q content) dir = .ok dirs ∧
      List.Forall₂ S dirs ys)
    (hRS : ∀ d x y, R d x → S d y → T x y) : List.Forall₂ T xs ys := by
  obtain ⟨dirs, hdirs, hxs⟩ := h
  obtain ⟨dirs', hdirs', hys⟩ := h'
  -- the folders are the same, so both lists are related to one list
  rw [subdirectories_withContent, hdirs] at hdirs'
  obtain rfl := Except.ok.inj hdirs'
  exact forall₂_of_common hxs hys hRS

namespace Package.Indexed

variable {p p' : Package} (h : p.Indexed t) (h' : p'.Indexed (t.withContent q content))
  (hroot : p'.root = p.root)

include h h' hroot

/-- The agents before and after, side by side. -/
theorem forall₂_agents : List.Forall₂ (Entity.Rebuilt t q) p.agents p'.agents := by
  have hagents := Index.agents_eq_ok_iff.mp h'.agents
  rw [hroot] at hagents
  exact Index.forall₂_folders (Index.agents_eq_ok_iff.mp h.agents) hagents
    fun _ _ _ => Index.entity_rebuilt

/-- The toolsets before and after, side by side. -/
theorem forall₂_toolsets : List.Forall₂ (Toolset.Rebuilt t q) p.toolsets p'.toolsets := by
  have htoolsets := Index.toolsets_eq_ok_iff.mp h'.toolsets
  rw [hroot] at htoolsets
  exact Index.forall₂_folders (Index.toolsets_eq_ok_iff.mp h.toolsets) htoolsets
    fun _ _ _ => Index.toolset_rebuilt

/-- The model that is built again is like the old one. -/
theorem alike : p.Alike p' := by
  have hlisting := h'.listing
  rw [hroot, Index.listing_withContent, h.listing] at hlisting
  obtain ⟨hfiles, hdirectories⟩ := Index.Listing.mk.inj (Except.ok.inj hlisting)
  exact ⟨hroot, hfiles.symm, hdirectories.symm,
    (h.forall₂_agents h' hroot).map_eq fun _ _ hab => hab.name,
    (h.forall₂_toolsets h' hroot).map_eq fun _ _ hab => hab.entity.name⟩

end Package.Indexed

/-- Models that are alike have the same paths, whatever the content of files. -/
theorem Package.Alike.pathExists {p p' : Package} (h : p.Alike p') (path : Path) :
    p'.pathExists (t.withContent q content) path = p.pathExists t path := by
  rw [pathExists_withContent]
  unfold Package.pathExists hasFile hasDirectory isInside
  rw [h.root, h.files, h.directories]

/-- Models that are alike have the same directories, whatever the content of files. -/
theorem Package.Alike.hasDirectory {p p' : Package} (h : p.Alike p') (path : Path) :
    p'.hasDirectory (t.withContent q content) path = p.hasDirectory t path := by
  rw [hasDirectory_withContent]
  unfold Package.hasDirectory isInside
  rw [h.root, h.directories]

end AgentPackage
