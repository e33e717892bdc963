import AgentPackage.Proofs.Package.Index
import AgentPackage.Proofs.Package.Listing
import AgentPackage.Proofs.Package.Places

/-!
# The scans of a package

The folders of entities, the entries of the root and the files and directories of a package are
found by scans of their own, each of which follows links. Where the listing goes on at a directory,
a scan of that directory finds what the listing holds below it.

## Main definitions

* `Package.collections`: the entities of each kind, without their manifests;
* `Index.Reports`: an entity says whether its folder holds its manifest.

## Main results

* `Index.scan_eq_filter`: what a scan of a directory keeps is what the listing holds there;
* `Package.scans_agree`: the scans of a package agree.
-/

namespace AgentPackage

open Except FileTree

variable {t : FileTree}

namespace Index

section Scan

variable {dir : Path} {test : Entry → Bool} {listed kept : List Listed}

theorem exists_end?_of_any {path : Path} (h : (t.end? path).any test = true) :
    ∃ e, t.end? path = some e := by
  cases hend : t.end? path with
  | some e => exact ⟨e, rfl⟩
  | none => rw [hend] at h; cases h

/-- What a scan of a directory keeps, in the order of the names. -/
theorem scan_eq_ok (ht : t.WellFormed) (hdir : dir.Proper) (hlisted : entries t dir = .ok listed)
    (hkept : listed.filterM (fun l => lift (l.leadsTo t test)) = .ok kept) :
    kept.Pairwise (fun a b => a.name < b.name) ∧ (∀ l ∈ kept, l.path = dir.entry l.name) ∧
      ∀ path, path ∈ kept.map Listed.path ↔
        ∃ name, IsFileName name ∧ path = dir.entry name ∧ (t.end? path).any test = true := by
  obtain ⟨hsub, hmem, htests⟩ := filterM_eq_ok hkept
  unfold entries at hlisted
  obtain ⟨isDirectory, hdirectory, hlisted⟩ := bind_eq_ok.mp hlisted
  have hdirectory := access_isDirectory_eq_ok ht hdirectory
  cases isDirectory with
  | false =>
    -- nothing stands below what is no directory
    obtain rfl := pure_eq_ok.mp hlisted
    obtain rfl := List.sublist_nil.mp hsub
    refine ⟨.nil, fun l hl => (nomatch hl), fun path => ⟨fun h => (nomatch h), ?_⟩⟩
    rintro ⟨name, -, rfl, htest⟩
    obtain ⟨e, hend⟩ := exists_end?_of_any htest
    cases hdirectory.mpr (ht.end?_of_append (by simp) hend)
  | true =>
    have hlisted := lift_eq_ok_iff.mp hlisted
    obtain ⟨place, hlocate, hplace, hlist⟩ := mem_of_list_eq_ok hlisted
    refine ⟨(ht.pairwise_list hlisted).sublist hsub, fun l hl => ?_, fun path => ?_⟩
    · exact ((hlist l).mp ((hmem l).mp hl).1).1
    · rw [List.mem_map]
      constructor
      · rintro ⟨l, hl, rfl⟩
        obtain ⟨hl, htest⟩ := (hmem l).mp hl
        refine ⟨l.name, ht.isFileName_listed hlisted hl, ((hlist l).mp hl).1, ?_⟩
        exact (leadsTo_eq_ok ht hdir hlisted hl (lift_eq_ok_iff.mp htest)).symm
      · rintro ⟨name, hname, rfl, htest⟩
        obtain ⟨e, hend⟩ := exists_end?_of_any htest
        obtain ⟨entry, hentry⟩ := exists_find?_of_end? hdir hlocate hplace hname hend
        have hl : ⟨name, dir.entry name, entry⟩ ∈ listed := (hlist _).mpr ⟨rfl, hentry⟩
        obtain ⟨b, hb⟩ := htests _ hl
        have hb' := leadsTo_eq_ok ht hdir hlisted hl (lift_eq_ok_iff.mp hb)
        rw [htest] at hb'
        exact ⟨_, (hmem _).mpr ⟨hl, hb' ▸ hb⟩, rfl⟩

variable {root : Path} {l : Listing}

/-- What a listing holds of one kind. -/
theorem IsListing.mem_paths (h : IsListing t root l) {k : Kind} (hk : k ≠ .other) {path : Path} :
    path ∈ l.paths k ↔
      ∃ names name, (∀ n ∈ names ++ [name], IsFileName n) ∧ Entered t root names ∧
        path = below root (names ++ [name]) ∧ Kind.ofEnd (t.end? path) = k := by
  cases k with
  | directory => simpa only [Listing.paths, Kind.ofEnd_eq_directory] using h.mem_directories path
  | file => simpa only [Listing.paths, Kind.ofEnd_eq_file] using h.mem_files path
  | other => exact absurd rfl hk

/-- What a listing holds of one kind is in order. -/
theorem IsListing.paths_lt (h : IsListing t root l) (k : Kind) :
    (l.paths k).Pairwise fun p q => p.names < q.names := by
  cases k with
  | directory => exact h.directories_lt
  | file => exact h.files_lt
  | other => exact .nil

/-- Two lists of paths in order that hold the same paths are the same. -/
theorem eq_of_names_lt {ps qs : List Path} (hps : ps.Pairwise fun p q => p.names < q.names)
    (hqs : qs.Pairwise fun p q => p.names < q.names) (h : ∀ p, p ∈ ps ↔ p ∈ qs) : ps = qs := by
  have : Std.Irrefl fun p q : Path => p.names < q.names := ⟨fun p => lt_irrefl p.names⟩
  have : Std.Antisymm fun p q : Path => p.names < q.names :=
    ⟨fun p q hpq hqp => absurd hqp hpq.asymm⟩
  exact hps.eq_of_mem_iff hqs h

/-- A scan of a directory below the root keeps what the listing holds there, if the listing goes on
at that directory. -/
theorem scan_eq_filter (ht : t.WellFormed) (hroot : root.Proper) (h : IsListing t root l)
    {names : List String} (hnames : ∀ n ∈ names, IsFileName n)
    (hentered : t.end? (below root names) = some .directory → Entered t root names) {k : Kind}
    (hk : k ≠ .other) (htest : ∀ e : Option Entry, e.any test = true ↔ Kind.ofEnd e = k)
    (hlisted : entries t (below root names) = .ok listed)
    (hkept : listed.filterM (fun l => lift (l.leadsTo t test)) = .ok kept) :
    kept.map Listed.path = (l.paths k).filter fun p => p.parent == below root names := by
  have hdir := below_proper hroot hnames
  obtain ⟨hlt, hpath, hmem⟩ := scan_eq_ok ht hdir hlisted hkept
  refine eq_of_names_lt ?_ ((h.paths_lt k).filter _) fun path => ?_
  · rw [List.pairwise_map]
    refine hlt.imp_of_mem fun {a b} ha hb hab => ?_
    rw [hpath a ha, hpath b hb]
    exact List.Lex.append_left (· < ·) (.rel hab) (below root names).names
  · have hparent : ∀ names name, (below root (names ++ [name])).parent = below root names := by
      intro names name
      simp [below, Path.parent]
    rw [hmem, List.mem_filter, h.mem_paths hk, beq_iff_eq]
    constructor
    · rintro ⟨name, hname, rfl, hany⟩
      obtain ⟨e, hend⟩ := exists_end?_of_any hany
      have hentered := hentered (ht.end?_of_append (by simp) hend)
      rw [← below_concat] at hany ⊢
      refine ⟨⟨names, name, ?_, hentered, rfl, (htest _).mp hany⟩, hparent names name⟩
      rw [List.forall_mem_append, List.forall_mem_singleton]
      exact ⟨hnames, hname⟩
    · rintro ⟨⟨names', name, hnames', -, rfl, hkind⟩, heq⟩
      rw [hparent] at heq
      rw [below_injective heq] at hnames' hkind ⊢
      rw [List.forall_mem_append, List.forall_mem_singleton] at hnames'
      exact ⟨name, hnames'.2, below_concat, (htest _).mpr hkind⟩

theorem any_isFolder {e : Option Entry} : e.any isFolder = true ↔ Kind.ofEnd e = .directory := by
  rcases e with _ | _ | _ | _ <;> simp [Kind.ofEnd, isFolder]

theorem any_isRegular {e : Option Entry} : e.any isRegular = true ↔ Kind.ofEnd e = .file := by
  rcases e with _ | _ | _ | _ <;> simp [Kind.ofEnd, isRegular]

/-- The folders in a directory below the root are the directories that the listing holds there. -/
theorem subdirectories_eq_filter (ht : t.WellFormed) (hroot : root.Proper)
    (h : IsListing t root l) {names : List String} (hnames : ∀ n ∈ names, IsFileName n)
    (hentered : t.end? (below root names) = some .directory → Entered t root names)
    {dirs : List Path} (hdirs : subdirectories t (below root names) = .ok dirs) :
    dirs = l.directories.filter fun p => p.parent == below root names := by
  unfold subdirectories at hdirs
  obtain ⟨listed, hlisted, hdirs⟩ := bind_eq_ok.mp hdirs
  obtain ⟨kept, hkept, hdirs⟩ := bind_eq_ok.mp hdirs
  obtain rfl := pure_eq_ok.mp hdirs
  exact scan_eq_filter ht hroot h hnames hentered (k := .directory) (by decide)
    (fun e => any_isFolder) hlisted hkept

/-- The folders in a directory are found in the order of their names. -/
theorem subdirectories_eq_ok (ht : t.WellFormed) (hdir : dir.Proper) {dirs : List Path}
    (hdirs : subdirectories t dir = .ok dirs) :
    dirs.Pairwise (fun a b => a.name < b.name) ∧
      ∀ d, d ∈ dirs ↔ ∃ name, IsFileName name ∧ d = dir.entry name ∧
        t.end? d = some .directory := by
  unfold subdirectories at hdirs
  obtain ⟨listed, hlisted, hdirs⟩ := bind_eq_ok.mp hdirs
  obtain ⟨kept, hkept, hdirs⟩ := bind_eq_ok.mp hdirs
  obtain rfl := pure_eq_ok.mp hdirs
  obtain ⟨hlt, hpath, hmem⟩ := scan_eq_ok ht hdir hlisted hkept
  refine ⟨?_, fun d => ?_⟩
  · rw [List.pairwise_map]
    refine hlt.imp_of_mem fun {a b} ha hb hab => ?_
    rw [hpath a ha, hpath b hb]
    simpa [Path.entry, Path.name] using hab
  · rw [hmem]
    simp only [any_isFolder, Kind.ofEnd_eq_directory]

/-- The files and directories in the root are those that the listing holds there. -/
theorem topLevel_eq_filter (ht : t.WellFormed) (hroot : root.Proper) (h : IsListing t root l)
    {files dirs : List String} (htop : topLevel t root = .ok (files, dirs)) :
    files = (l.files.filter fun p => p.parent == root).map Path.name ∧
      dirs = (l.directories.filter fun p => p.parent == root).map Path.name := by
  unfold topLevel at htop
  obtain ⟨listed, hlisted, htop⟩ := bind_eq_ok.mp htop
  obtain ⟨keptFiles, hfiles, htop⟩ := bind_eq_ok.mp htop
  obtain ⟨keptDirs, hdirs, htop⟩ := bind_eq_ok.mp htop
  cases pure_eq_ok.mp htop
  have hentered : t.end? (below root []) = some .directory → Entered t root [] :=
    fun _ => entered_nil
  have hnil : ∀ n ∈ ([] : List String), IsFileName n := fun n hn => (nomatch hn)
  replace hlisted : entries t (below root []) = .ok listed := by rwa [below_nil]
  -- the path of an entry ends with its name
  have hname : ∀ {kept : List Listed} {test : Entry → Bool},
      listed.filterM (fun l => lift (l.leadsTo t test)) = .ok kept →
        kept.map Listed.name = (kept.map Listed.path).map Path.name := by
    intro kept test hkept
    rw [List.map_map]
    refine List.map_congr_left fun l hl => ?_
    obtain ⟨-, hpath, -⟩ := scan_eq_ok ht (by rwa [below_nil]) hlisted hkept
    simp [hpath l hl, Path.entry, Path.name]
  constructor
  · rw [hname hfiles, scan_eq_filter ht hroot h hnil hentered
      (k := .file) (by decide) (fun e => any_isRegular) hlisted hfiles, below_nil]
    rfl
  · rw [hname hdirs, scan_eq_filter ht hroot h hnil hentered
      (k := .directory) (by decide) (fun e => any_isFolder) hlisted hdirs, below_nil]
    rfl

end Scan

section Entered

variable {root : Path} {folder name : String}

theorem below_singleton : below root [folder] = root.entry folder := by
  rw [below_cons, below_nil]

/-- The walk goes on at a directory in the root that is not, without links, the root. -/
theorem entered_folder (hend : t.end? (root.entry folder) = some .directory)
    (hreal : realPlace t (root.entry folder) ≠ realPlace t root) : Entered t root [folder] := by
  rw [← below_singleton] at hend hreal
  refine @Entered.concat _ _ [] folder entered_nil hend fun shorter hshorter => ?_
  rw [List.prefix_nil.mp hshorter, below_nil]
  exact hreal

/-- The walk goes on at a directory in a folder in the root that is, without links, neither of the
two, if it goes on at the folder. -/
theorem entered_entity (hfolder : Entered t root [folder])
    (hend : t.end? ((root.entry folder).entry name) = some .directory)
    (hrealRoot : realPlace t ((root.entry folder).entry name) ≠ realPlace t root)
    (hrealFolder : realPlace t ((root.entry folder).entry name) ≠
      realPlace t (root.entry folder)) :
    Entered t root [folder, name] := by
  have hdir : (root.entry folder).entry name = below root ([folder] ++ [name]) := by
    rw [below_concat, below_singleton]
  rw [hdir] at hend hrealRoot hrealFolder
  refine hfolder.concat hend fun shorter hshorter => ?_
  rcases List.prefix_cons_iff.mp hshorter with rfl | ⟨part, rfl, hpart⟩
  · rwa [below_nil]
  · rwa [List.prefix_nil.mp hpart, below_singleton]

end Entered

section Missing

theorem head?_append {a b : String} {c : Char} (h : a.toList.head? = some c) :
    (a ++ b).toList.head? = some c := by
  rw [String.toList_append, List.head?_append, h]
  rfl

/-- What is wrong with a JSON document is never worded like a missing manifest. -/
theorem error?_ne_missingManifest {path : Path} {document : Document}
    (h : Document.read t .json path = .ok document) (kind : String) :
    document.error? ≠ some (missingManifest kind) := by
  -- the first letters of the messages differ, whatever the file and its text are
  have hmissing : (missingManifest kind).toList.head? = some 'M' :=
    head?_append (head?_append rfl)
  have hne : ∀ {reason : String} {c : Char}, reason.toList.head? = some c → c ≠ 'M' →
      some reason ≠ some (missingManifest kind) := by
    rintro reason c hc hne heq
    rw [Option.some.inj heq, hmissing] at hc
    exact hne (Option.some.inj hc).symm
  have haccess : ∀ fault : AccessFault, fault.message.toList.head? = some '[' := fun fault =>
    head?_append (head?_append (head?_append (head?_append (head?_append rfl))))
  unfold Document.read at h
  cases hread : t.readText path path with
  | error fault =>
    rw [hread] at h
    cases fault with
    | unnameable => cases h
    | access fault => cases h; exact hne (haccess fault) (by decide)
    | encoding fault =>
      cases h
      exact hne (c := '\'') (head?_append (head?_append (head?_append rfl))) (by decide)
  | ok text =>
    rw [hread] at h
    dsimp only at h
    unfold Document.ofText at h
    split at h
    · cases h
    · rename_i reason hvalue
      cases h
      obtain ⟨problem, offset, rfl⟩ : ∃ p offset, reason = Json.Problem.describe p text offset := by
        simp only [Document.valueOf] at hvalue
        split at hvalue <;> cases hvalue
        exact ⟨_, _, rfl⟩
      have hmessage : ∃ c, problem.message.toList.head? = some c ∧ c ≠ 'M' := by
        cases problem <;> exact ⟨_, rfl, by decide⟩
      obtain ⟨c, hc, hne'⟩ := hmessage
      refine hne (c := c) ?_ hne'
      unfold Json.Problem.describe
      iterate 7 apply head?_append
      exact hc
    · cases h
      simp [Document.error?]
    · cases h
      exact hne (c := 'J') (head?_append rfl) (by decide)

/-- An entity stands for its folder and says whether the folder holds its manifest. -/
structure Reports {α : Type} (t : FileTree) (kind : String) (dir : Path) (e : Entity α) : Prop where
  /-- The entity stands for the folder. -/
  standsFor : StandsFor dir e
  /-- The manifest is missing exactly if there is no such file. -/
  missing : ∃ b, t.isFile e.manifestPath = .ok b ∧
    (e.error = some (missingManifest kind) ↔ b = false)

/-- An entity that was loaded says whether its folder holds its manifest. -/
theorem entity_reports {α : Type} {kind : String} {shape : RecordShape Shape} {build : Fields → α}
    {dir : Path} {e : Entity α} (h : entity t kind shape build dir = .ok e) :
    Reports t kind dir e := by
  refine ⟨(entity_eq_ok h).1, ?_⟩
  unfold entity at h
  obtain ⟨isFile, hfile, h⟩ := bind_eq_ok.mp h
  have hfile := access_eq_ok_iff.mp hfile
  cases isFile with
  | false =>
    obtain rfl := pure_eq_ok.mp h
    exact ⟨false, hfile, by simp⟩
  | true =>
    obtain ⟨document, hread, h⟩ := bind_eq_ok.mp h
    have herror := error?_ne_missingManifest hread kind
    cases hdocument : document with
    | record fields text =>
      rw [hdocument] at h
      obtain ⟨⟨manifest, issues⟩, -, h⟩ := bind_eq_ok.mp h
      obtain rfl := pure_eq_ok.mp h
      exact ⟨true, hfile, by simp⟩
    | _ =>
      rw [hdocument] at h herror
      obtain rfl := pure_eq_ok.mp h
      exact ⟨true, hfile, iff_of_false herror (by decide)⟩

end Missing

end Index

/-- The entity without the content of its manifest. -/
def Entity.bare {α : Type} (e : Entity α) : Entity Unit :=
  { name := e.name, dir := e.dir, manifestPath := e.manifestPath, data := e.data, error := e.error,
    fieldIssues := e.fieldIssues, manifest := e.manifest.map fun _ => () }

theorem Index.Reports.bare {α : Type} {kind : String} {dir : Path} {e : Entity α}
    (h : Reports t kind dir e) : Reports t kind dir e.bare :=
  ⟨⟨h.standsFor.name, h.standsFor.folder, h.standsFor.manifestPath⟩, h.missing⟩

/-- The entities of one kind, without the content of their manifests. -/
structure Collection where
  /-- The name of the folder in which the folders of the entities lie. -/
  folder : String
  /-- The name of the kind in messages. -/
  kind : String
  /-- The entities. -/
  entities : List (Entity Unit)

namespace Package

open Index

/-- The entities of each kind. -/
def collections (p : Package) : List Collection :=
  [⟨"agents", "agent", p.agents.map Entity.bare⟩,
    ⟨"toolsets", "toolset", p.toolsets.map fun s => s.entity.bare⟩,
    ⟨"evaluations", "evaluation", p.evaluations.map Entity.bare⟩,
    ⟨"tools", "script tool", p.scriptTools.map Entity.bare⟩]

variable {p : Package}

/-- The entities of each kind are those of the folders in its folder, and say whether these hold
their manifests. -/
theorem Indexed.collections (h : p.Indexed t) {c : Collection} (hc : c ∈ p.collections) :
    IsFileName c.folder ∧ ∃ dirs, subdirectories t (p.root.entry c.folder) = .ok dirs ∧
      List.Forall₂ (Reports t c.kind) dirs c.entities := by
  have hfolders : ∀ folder ∈ ["agents", "toolsets", "evaluations", "tools"],
      IsFileName folder := by
    decide +kernel
  simp only [Package.collections, List.mem_cons, List.not_mem_nil, or_false] at hc
  rcases hc with rfl | rfl | rfl | rfl
  · obtain ⟨dirs, hdirs, hes⟩ := agents_eq_ok_iff.mp h.agents
    refine ⟨hfolders _ (by simp), dirs, hdirs, List.forall₂_map_right_iff.mpr (hes.imp ?_)⟩
    exact fun dir e he => (entity_reports he).bare
  · obtain ⟨dirs, hdirs, hss⟩ := toolsets_eq_ok_iff.mp h.toolsets
    refine ⟨hfolders _ (by simp), dirs, hdirs, List.forall₂_map_right_iff.mpr (hss.imp ?_)⟩
    exact fun dir s hs => (entity_reports (toolset_eq_ok_iff.mp hs).1).bare
  · obtain ⟨dirs, hdirs, hes⟩ := evaluations_eq_ok_iff.mp h.evaluations
    refine ⟨hfolders _ (by simp), dirs, hdirs, List.forall₂_map_right_iff.mpr (hes.imp ?_)⟩
    exact fun dir e he => (entity_reports he).bare
  · obtain ⟨dirs, hdirs, hes⟩ := scriptTools_eq_ok_iff.mp h.scriptTools
    refine ⟨hfolders _ (by simp), dirs, hdirs, List.forall₂_map_right_iff.mpr (hes.imp ?_)⟩
    exact fun dir e he => (entity_reports he).bare

section Below

variable (hroot : ".." ∉ p.root.names) {names : List String} (hnames : ".." ∉ names)

include hroot hnames

/-- A path below the root lies inside the package. -/
theorem isInside_below : p.isInside (below p.root names) = true := by
  unfold isInside
  rw [normalize_below hroot hnames]
  simp [Path.relativeTo?, below]

/-- Whether a path below the root is a file is answered from the listing. -/
theorem hasFile_below :
    p.hasFile t (below p.root names) = .ok (p.files.contains (below p.root names)) := by
  unfold hasFile
  dsimp only
  rw [normalize_below hroot hnames, isInside_below hroot hnames]
  rfl

/-- Whether a path below the root is a directory is answered from the listing. -/
theorem hasDirectory_below (hne : names ≠ []) :
    p.hasDirectory t (below p.root names) =
      .ok (p.directories.contains (below p.root names)) := by
  have hother : (below p.root names == p.root) = false := by
    rw [beq_eq_false_iff_ne]
    intro heq
    exact hne (below_injective (heq.trans below_nil.symm))
  unfold hasDirectory
  dsimp only
  rw [normalize_below hroot hnames, hother, isInside_below hroot hnames]
  rfl

end Below

/-- The folders of entities are the directories that are listed in their folder. -/
theorem Indexed.scan_eq_filter (h : p.Indexed t) (ht : t.WellFormed) (hroot : p.root.Proper)
    {folder : String} (hfolder : IsFileName folder)
    (hreal : realPlace t (p.root.entry folder) ≠ realPlace t p.root) {dirs : List Path}
    (hdirs : subdirectories t (p.root.entry folder) = .ok dirs) :
    dirs = p.directories.filter fun d => d.parent == p.root.entry folder := by
  have hlisting := isListing_of_eq_ok ht hroot h.listing
  rw [← below_singleton] at hdirs ⊢
  refine subdirectories_eq_filter ht hroot hlisting (by simpa using hfolder) (fun hend => ?_) hdirs
  exact entered_folder (below_singleton ▸ hend) hreal

/-- An entity misses its manifest exactly if this is no file of the package, where the walk goes on
at its folder. -/
theorem Indexed.missing_iff (h : p.Indexed t) (ht : t.WellFormed) (hroot : p.root.Proper)
    (hup : ".." ∉ p.root.names) {folder : String} (hfolder : IsFileName folder)
    (hreal : realPlace t (p.root.entry folder) ≠ realPlace t p.root) {dir : Path}
    (hdir : ∃ name, IsFileName name ∧ dir = (p.root.entry folder).entry name ∧
      t.end? dir = some .directory)
    (hrealRoot : realPlace t dir ≠ realPlace t p.root)
    (hrealFolder : realPlace t dir ≠ realPlace t (p.root.entry folder)) {kind : String}
    {e : Entity Unit} (he : Reports t kind dir e) :
    e.error = some (missingManifest kind) ↔ p.hasFile t e.manifestPath = .ok false := by
  obtain ⟨name, hname, rfl, hend⟩ := hdir
  obtain ⟨b, hb, herror⟩ := he.missing
  have hlisting := isListing_of_eq_ok ht hroot h.listing
  have hproper : ((p.root.entry folder).entry name).Proper :=
    Path.entry_proper (Path.entry_proper hroot hfolder.1) hname.1
  have hentered : Entered t p.root [folder, name] :=
    entered_entity (entered_folder (ht.end?_of_append (List.cons_ne_nil name []) hend) hreal) hend
      hrealRoot hrealFolder
  obtain ⟨file, hfile, hpath⟩ := he.standsFor.manifest_isEntryOf ⟨name, hname.1, rfl⟩
  have hup' : file ≠ ".." := by
    have hnames := congrArg Path.names (hpath.symm.trans he.standsFor.manifestPath)
    have heq : file = name ++ ".json" := by simpa [Path.entry, Path.name] using hnames
    rw [heq]
    exact (isName_json hname.1.2.2).2
  have hmanifest : e.manifestPath = below p.root ([folder, name] ++ [file]) := by
    rw [hpath, below_concat, below_cons, below_cons, below_nil]
  -- the listing holds the manifest if something of that name is a file
  have hmem : e.manifestPath ∈ p.files ↔ b = true := by
    rw [ht.probe_eq_ok hb, any_isRegular, Kind.ofEnd_eq_file, hlisting.mem_files]
    constructor
    · rintro ⟨_, _, -, -, -, hend⟩
      exact hend
    · rintro ⟨content, hend⟩
      have hfile' : IsFileName file := ht.isFileName_of_end? hproper hfile hup' (hpath ▸ hend)
      exact ⟨[folder, name], file, by simp [hfolder, hname, hfile'], hentered, hmanifest, _, hend⟩
  have hhas : p.hasFile t e.manifestPath = .ok (p.files.contains e.manifestPath) := by
    rw [hmanifest]
    refine hasFile_below hup ?_
    simp [hfolder.2.1.symm, hname.2.1.symm, hup'.symm]
  rw [herror, hhas, Except.ok.injEq, List.contains_eq_mem, decide_eq_false_iff_not, hmem,
    Bool.not_eq_true]

/-- The scans of a package agree. The folders of entities are the directories that are listed in
their folder, if this is not, without links, the root. An entity misses its manifest exactly if this
is no file of the package, if its own folder is, without links, neither the root nor the folder it
lies in. The names in the root are those of what is listed there. -/
theorem scans_agree (ht : t.WellFormed) {cwd path : Path} (hcwd : cwd.Proper) (hpath : path.Proper)
    (hp : Package.build t cwd path = .ok p) :
    (∀ c ∈ p.collections, realPlace t (p.root.entry c.folder) ≠ realPlace t p.root →
      c.entities.map Entity.dir =
        (p.directories.filter fun d => d.parent == p.root.entry c.folder) ∧
      c.entities.Pairwise (fun a b => a.name < b.name) ∧
      (∀ e ∈ c.entities, e.name = e.dir.name) ∧
      ∀ e ∈ c.entities, realPlace t e.dir ≠ realPlace t p.root →
        realPlace t e.dir ≠ realPlace t (p.root.entry c.folder) →
          (e.error = some (missingManifest c.kind) ↔ p.hasFile t e.manifestPath = .ok false)) ∧
    (realPlace t (p.root.entry "guardrails") ≠ realPlace t p.root →
      (p.guardrailDirs =
        p.directories.filter fun d => d.parent == p.root.entry "guardrails") ∧
      p.guardrailDirs.Pairwise fun a b => a.name < b.name) ∧
    p.topLevelFiles = (p.files.filter fun f => f.parent == p.root).map Path.name ∧
    p.topLevelDirs = (p.directories.filter fun d => d.parent == p.root).map Path.name := by
  obtain ⟨hresolve, h⟩ := build_eq_ok_iff.mp hp
  have hroot := (resolve_proper hcwd hpath hresolve).1
  have hup := up_notMem_resolve hcwd hpath hresolve
  refine ⟨fun c hc hreal => ?_, fun hreal => ⟨?_, ?_⟩,
    topLevel_eq_filter ht hroot (isListing_of_eq_ok ht hroot h.listing) h.topLevel⟩
  · obtain ⟨hfolder, dirs, hdirs, hes⟩ := h.collections hc
    have hfolders := subdirectories_eq_ok ht (Path.entry_proper hroot hfolder.1) hdirs
    have hdir : c.entities.map Entity.dir = dirs := by
      have hsame := hes.map_eq (f := id) (g := Entity.dir) fun d e he => he.standsFor.folder
      rwa [List.map_id] at hsame
    refine ⟨?_, ?_, fun e he => ?_, fun e he hrealRoot hrealFolder => ?_⟩
    · rw [hdir]
      exact h.scan_eq_filter ht hroot hfolder hreal hdirs
    · refine hes.pairwise (hfolders.1.imp fun hlt e e' he he' => ?_)
      rw [he.standsFor.name, he'.standsFor.name]
      exact hlt
    · obtain ⟨d, -, he⟩ := hes.exists_of_mem_right he
      rw [he.standsFor.name, he.standsFor.folder]
    · obtain ⟨d, hd, he⟩ := hes.exists_of_mem_right he
      rw [he.standsFor.folder] at hrealRoot hrealFolder
      exact h.missing_iff ht hroot hup hfolder hreal ((hfolders.2 d).mp hd) hrealRoot hrealFolder he
  · exact h.scan_eq_filter ht hroot (by decide +kernel) hreal h.guardrailDirs
  · exact (subdirectories_eq_ok ht (Path.entry_proper hroot (by decide)) h.guardrailDirs).1

section Linked

/-- A package with an agent under two names, the second of which names no manifest. -/
def linked : FileTree :=
  ⟨[(["p"], .directory), (["p", "agents"], .directory), (["p", "agents", "again"], .link "greeter"),
    (["p", "agents", "greeter"], .directory),
    (["p", "agents", "greeter", "greeter.json"], .file "\x7b\x7d".toUTF8),
    (["p", "agents", "up"], .link "../..")]⟩

/-- A package whose folder for agents is the package itself. -/
def selfLinked : FileTree :=
  ⟨[(["p"], .directory), (["p", "agents"], .link "."), (["p", "foo"], .directory),
    (["p", "foo", "foo.json"], .file "\x7b\x7d".toUTF8)]⟩

/-- The root of the two packages. -/
def linkedRoot : Path :=
  ⟨.root, ["p"]⟩

set_option maxRecDepth 10000 in
/-- The agents are found under all their names, and the manifest is missing under the second. -/
theorem scans_agree_linked :
    linked.WellFormed ∧ linkedRoot.Proper ∧
      ∃ p, Package.build linked linkedRoot linkedRoot = .ok p ∧
        realPlace linked (p.root.entry "agents") ≠ realPlace linked p.root ∧
        p.agents.map Entity.name = ["again", "greeter", "up"] ∧
        (p.agents.map Entity.dir =
          p.directories.filter fun d => d.parent == p.root.entry "agents") ∧
        ∀ a ∈ p.agents, a.name ≠ "up" →
          (a.error = some (missingManifest "agent") ↔
            p.hasFile linked a.manifestPath = .ok false) := by
  have ht : linked.WellFormed := by decide +kernel
  have hroot : linkedRoot.Proper := by decide +kernel
  obtain ⟨p, hp, hreal, hnames, hown⟩ : ∃ p, Package.build linked linkedRoot linkedRoot = .ok p ∧
      realPlace linked (p.root.entry "agents") ≠ realPlace linked p.root ∧
      p.agents.map Entity.name = ["again", "greeter", "up"] ∧
      ∀ a ∈ p.agents, a.name ≠ "up" → realPlace linked a.dir ≠ realPlace linked p.root ∧
        realPlace linked a.dir ≠ realPlace linked (p.root.entry "agents") := by
    decide +kernel
  have hagree := (scans_agree ht hroot hroot hp).1 _ List.mem_cons_self hreal
  refine ⟨ht, hroot, p, hp, hreal, hnames, ?_, fun a ha hup => ?_⟩
  · rw [← hagree.1, List.map_map]
    rfl
  · exact hagree.2.2.2 a.bare (List.mem_map_of_mem ha) (hown a ha hup).1 (hown a ha hup).2

set_option maxRecDepth 10000 in
/-- Where the folder for agents is the root itself, an agent has its manifest although the listing
does not hold it under its path. -/
theorem hasFile_selfLinked :
    selfLinked.WellFormed ∧ linkedRoot.Proper ∧
      ∃ p, Package.build selfLinked linkedRoot linkedRoot = .ok p ∧
        ∃ a ∈ p.agents, realPlace selfLinked a.dir ≠ realPlace selfLinked p.root ∧
          realPlace selfLinked a.dir ≠ realPlace selfLinked (p.root.entry "agents") ∧
          a.error ≠ some (missingManifest "agent") ∧
          p.hasFile selfLinked a.manifestPath = .ok false := by
  refine ⟨by decide +kernel, by decide +kernel, ?_⟩
  decide +kernel

end Linked

end Package

end AgentPackage
