import AgentPackage.Audit.Rules.Toolsets
import AgentPackage.Proofs.FileTree.Listed
import AgentPackage.Proofs.Package.Index

/-!
# Where the parts of a package lie

The folders of a package are entries of its directories, and manifests and schemas lie in them. In
a tree whose names could be those of files their paths have proper names, and are therefore told
apart by their texts.

## Main results

* `Index.mem_subdirectories`, `Index.firstSchema_eq_some`: what is listed is an entry of the
  directory;
* `Package.indexed_of_build`: where the root of a package that was built lies;
* `Package.isEntryOf_of_manifestPath?`, `Package.Indexed.environment_isEntryOf`: the manifest of a
  package and the environment file lie in its root;
* `Package.Indexed.agent_proper`, `Package.Indexed.toolset_proper`: the paths of the manifests of
  agents and toolsets, and of the schemas in the folders of toolsets.
-/

namespace AgentPackage

open Except FileTree

variable {t : FileTree} {p : Package}

namespace Index

/-- The path is an entry of the directory, under a name that could be that of a file. -/
def IsEntryOf (dir path : Path) : Prop :=
  ∃ name, Path.IsName name ∧ path = dir.entry name

theorem IsEntryOf.proper {dir path : Path} (h : IsEntryOf dir path) (hdir : dir.Proper) :
    path.Proper := by
  obtain ⟨name, hname, rfl⟩ := h
  exact Path.entry_proper hdir hname

theorem IsEntryOf.isAbsolute {dir path : Path} (h : IsEntryOf dir path)
    (hdir : dir.isAbsolute = true) : path.isAbsolute = true := by
  obtain ⟨name, -, rfl⟩ := h
  exact hdir

/-- An entry of a directory with a proper path has a proper path. -/
theorem IsEntryOf.proper_isAbsolute {dir path : Path} (h : IsEntryOf dir path)
    (hdir : dir.Proper ∧ dir.isAbsolute = true) : path.Proper ∧ path.isAbsolute = true :=
  ⟨h.proper hdir.1, h.isAbsolute hdir.2⟩

section Listing

variable (ht : t.Proper) {dir : Path}

include ht

/-- What is listed of a directory is an entry of it. -/
theorem mem_entries {listed : List Listed} (h : entries t dir = .ok listed) {l : Listed}
    (hl : l ∈ listed) : IsEntryOf dir l.path := by
  unfold entries at h
  obtain ⟨isDirectory, -, h⟩ := bind_eq_ok.mp h
  cases isDirectory with
  | false =>
    obtain rfl := pure_eq_ok.mp h
    cases hl
  | true =>
    -- an access fault has become a failure, so listing succeeded with the same entries
    have hlist : t.list dir = .ok listed := by
      cases hlist : t.list dir with
      | ok listed' => rw [hlist] at h; cases h; rfl
      | error f => rw [hlist] at h; cases h
    unfold FileTree.list at hlist
    obtain ⟨place, -, hlist⟩ := bind_eq_ok.mp hlist
    split at hlist
    · obtain rfl := pure_eq_ok.mp hlist
      obtain ⟨name, hname, hentry⟩ := List.mem_filterMap.mp hl
      obtain ⟨e, -, rfl⟩ := Option.map_eq_some_iff.mp hentry
      exact ⟨name, ht.childNames hname, rfl⟩
    · cases hlist
    · cases hlist

/-- A folder in a directory is an entry of it. -/
theorem mem_subdirectories {dirs : List Path} (h : subdirectories t dir = .ok dirs) {d : Path}
    (hd : d ∈ dirs) : IsEntryOf dir d := by
  unfold subdirectories at h
  obtain ⟨listed, hlisted, h⟩ := bind_eq_ok.mp h
  obtain ⟨kept, hkept, h⟩ := bind_eq_ok.mp h
  obtain rfl := pure_eq_ok.mp h
  obtain ⟨l, hl, rfl⟩ := List.mem_map.mp hd
  exact mem_entries ht hlisted (((filterM_eq_ok hkept).2.1 l).mp hl).1

/-- The first schema in a directory is an entry of it. -/
theorem firstSchema_eq_some {path : Path} (h : firstSchema t dir = .ok (some path)) :
    IsEntryOf dir path := by
  unfold firstSchema at h
  obtain ⟨listed, hlisted, h⟩ := bind_eq_ok.mp h
  obtain ⟨found, hfound, h⟩ := bind_eq_ok.mp h
  obtain ⟨l, rfl, rfl⟩ := Option.map_eq_some_iff.mp (pure_eq_ok.mp h)
  exact mem_entries ht hlisted (firstM_eq_some hfound).1

end Listing

/-- With its five more characters the name of a manifest is neither empty, `.` nor `..`. -/
theorem isName_json {name : String} (hslash : '/' ∉ name.toList) :
    Path.IsName (name ++ ".json") ∧ name ++ ".json" ≠ ".." := by
  have hlength : (name ++ ".json").length = name.length + 5 := by
    rw [String.length_append]
    rfl
  have hne : ∀ short : String, short.length < 5 → name ++ ".json" ≠ short := by
    rintro short hshort rfl
    omega
  refine ⟨⟨hne _ (by decide), hne _ (by decide), ?_⟩, hne _ (by decide)⟩
  rw [String.toList_append, List.mem_append, not_or]
  exact ⟨hslash, by decide⟩

/-- The manifest of a folder is an entry of it. -/
theorem StandsFor.manifest_isEntryOf {α : Type} {dir d : Path} {e : Entity α}
    (h : StandsFor d e) (hd : IsEntryOf dir d) : IsEntryOf d e.manifestPath := by
  obtain ⟨name, ⟨-, -, hslash⟩, rfl⟩ := hd
  have hname : (dir.entry name).name = name := by simp [Path.entry, Path.name]
  exact ⟨name ++ ".json", (isName_json hslash).1, by rw [h.manifestPath, hname]⟩

/-- In a directory with a proper path the manifests of folders have proper paths. -/
theorem StandsFor.manifest_proper {α : Type} {dir d : Path} {e : Entity α} (h : StandsFor d e)
    (hd : IsEntryOf dir d) (hdir : dir.Proper) (habsolute : dir.isAbsolute = true) :
    e.manifestPath.Proper ∧ e.manifestPath.isAbsolute = true := by
  have hmanifest := h.manifest_isEntryOf hd
  exact ⟨hmanifest.proper (hd.proper hdir), hmanifest.isAbsolute (hd.isAbsolute habsolute)⟩

end Index

/-- A package that was built was indexed at an absolute root with proper names and without `..`. -/
theorem Package.indexed_of_build {cwd path : Path} (hcwd : cwd.Proper) (hpath : path.Proper)
    (hp : Package.build t cwd path = .ok p) :
    p.Indexed t ∧ (p.root.Proper ∧ p.root.isAbsolute = true) ∧ ".." ∉ p.root.names := by
  obtain ⟨hresolve, hindexed⟩ := build_eq_ok_iff.mp hp
  exact ⟨hindexed, resolve_proper hcwd hpath hresolve, up_notMem_resolve hcwd hpath hresolve⟩

namespace Package

/-- The manifest of a package lies in its root. -/
theorem isEntryOf_of_manifestPath? {path : Path} (h : p.manifestPath? = some path) :
    Index.IsEntryOf p.root path := by
  rw [manifestPath?_eq] at h
  split at h
  · cases h
    exact ⟨appYamlName, by decide, rfl⟩
  · split at h
    · cases h
      exact ⟨appJsonName, by decide, rfl⟩
    · cases h

theorem isEntryOf_defaultManifestPath (p : Package) :
    Index.IsEntryOf p.root p.defaultManifestPath := by
  unfold defaultManifestPath
  cases hpath : p.manifestPath? with
  | some path => exact isEntryOf_of_manifestPath? hpath
  | none => exact ⟨appYamlName, by decide, rfl⟩

end Package

namespace Package.Indexed

open Index

/-- The file of the manifest of a package has a name. -/
theorem isNameable_manifestPath (h : p.Indexed t) {path : Path}
    (hpath : p.manifestPath? = some path) : isNameable path = true := by
  rw [manifestPath?_eq] at hpath
  -- it was found to be a file
  split at hpath
  · rename_i hyaml
    cases hpath
    exact (probe_eq_true (access_eq_ok_iff.mp (hyaml ▸ h.hasAppYaml))).1
  · split at hpath
    · rename_i hjson
      cases hpath
      exact (probe_eq_true (access_eq_ok_iff.mp (hjson ▸ h.hasAppJson))).1
    · cases hpath

/-- The environment file lies in the root. -/
theorem environment_isEntryOf (h : p.Indexed t) {e : Environment} (he : p.environment = some e) :
    IsEntryOf p.root e.path := by
  obtain ⟨isFile, -, ⟨-, hnone⟩ | ⟨-, d, -, hsome⟩⟩ := environment?_eq_ok_iff.mp h.environment
  · cases he.symm.trans hnone
  · cases he.symm.trans hsome
    exact ⟨environmentName, by decide, rfl⟩

variable (h : p.Indexed t) (ht : t.Proper) (hroot : p.root.Proper)
  (habsolute : p.root.isAbsolute = true)

include h ht hroot habsolute

/-- The path of the manifest of an agent has proper names. -/
theorem agent_proper {a : Entity AgentManifest} (ha : a ∈ p.agents) :
    a.manifestPath.Proper ∧ a.manifestPath.isAbsolute = true := by
  obtain ⟨dirs, hdirs, hes⟩ := agents_eq_ok_iff.mp h.agents
  obtain ⟨d, hd, he⟩ := hes.exists_of_mem_right ha
  have hfolder : (p.root.entry "agents").Proper := Path.entry_proper hroot (by decide)
  exact (entity_eq_ok he).1.manifest_proper (mem_subdirectories ht hdirs hd) hfolder habsolute

/-- The paths of the manifest of a toolset and of the schema in its folder have proper names. -/
theorem toolset_proper {s : Toolset} (hs : s ∈ p.toolsets) :
    (s.entity.manifestPath.Proper ∧ s.entity.manifestPath.isAbsolute = true) ∧
      ∀ path, s.detectedSchema = some path → path.Proper ∧ path.isAbsolute = true := by
  obtain ⟨dirs, hdirs, hss⟩ := toolsets_eq_ok_iff.mp h.toolsets
  obtain ⟨d, hd, htoolset⟩ := hss.exists_of_mem_right hs
  obtain ⟨he, -, hschema⟩ := toolset_eq_ok_iff.mp htoolset
  have hfolder : (p.root.entry "toolsets").Proper := Path.entry_proper hroot (by decide)
  have hentry := mem_subdirectories ht hdirs hd
  refine ⟨(entity_eq_ok he).1.manifest_proper hentry hfolder habsolute, fun path hpath => ?_⟩
  rw [hpath] at hschema
  have hpath := firstSchema_eq_some ht hschema
  have hdir : (d.entry schemaDirName).Proper :=
    Path.entry_proper (hentry.proper hfolder) (by decide)
  exact ⟨hpath.proper hdir, hpath.isAbsolute (hentry.isAbsolute habsolute)⟩

end Package.Indexed

end AgentPackage
