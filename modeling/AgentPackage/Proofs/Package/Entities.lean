import AgentPackage.Proofs.Document
import AgentPackage.Proofs.Package.Scans

/-!
# The entities of a package

The entities of a kind are those of the directories in the folder for that kind, each under its own
name. An entity has its manifest, or else it has the text of the reason for which there is none, of
which there are four.

## Main definitions

* `Index.FailsToLoad`: why there is no manifest in a file, and the text of the reason;
* `Index.EntitiesOf`: the entities are those of the directories in a folder;
* `Index.EntityAt`: an entity stands for a directory, and tells why it has no manifest.

## Main results

* `Index.error_eq_some_iff`: an entity has the text of a reason exactly if there is the reason;
* `Index.EntitiesOf.mem`, `Index.EntitiesOf.exists_mem`: the entities are those of the directories;
* `Index.EntityAt.eq_of_text`: entities are told apart by the texts of the paths of their manifests.
-/

namespace AgentPackage

open Except FileTree

namespace Index

variable {t : FileTree} {root dir file : Path} {folder folder' kind kind' name reason : String}

/-- Why there is no manifest of an entity in a file, and the text of the reason. -/
inductive FailsToLoad (t : FileTree) (kind : String) (file : Path) : String → Prop where
  /-- There is no such file. -/
  | missing (hfile : t.isFile file = .ok false) : FailsToLoad t kind file (missingManifest kind)
  /-- The file cannot be read. -/
  | unreadable {reason : String} (hfile : t.isFile file = .ok true)
      (hread : Document.read t .json file = .ok (.unreadable reason)) :
      FailsToLoad t kind file reason
  /-- The text of the file is not JSON. -/
  | malformed {reason : String} {text : List Char} (hfile : t.isFile file = .ok true)
      (hread : Document.read t .json file = .ok (.malformed reason text)) :
      FailsToLoad t kind file reason
  /-- The root of the document is no mapping. -/
  | wrongRoot {text : List Char} (hfile : t.isFile file = .ok true)
      (hread : Document.read t .json file = .ok (.wrongRoot .json text)) :
      FailsToLoad t kind file "JSON root must be an object"

/-- Where the file is there, the text of the reason is what is wrong with its document. -/
theorem failsToLoad_iff_of_read (hfile : t.isFile file = .ok true) {document : Document}
    (hread : Document.read t .json file = .ok document) :
    FailsToLoad t kind file reason ↔ document.error? = some reason := by
  constructor
  · intro h
    cases h with
    | missing hfile' => cases hfile.symm.trans hfile'
    | unreadable _ hread' => cases hread.symm.trans hread'; rfl
    | malformed _ hread' => cases hread.symm.trans hread'; rfl
    | wrongRoot _ hread' => cases hread.symm.trans hread'; rfl
  · intro herror
    cases document with
    | unreadable reason =>
      cases herror
      exact .unreadable hfile hread
    | unsupported extension => exact absurd rfl (Document.ne_unsupported_of_read hread extension)
    | malformed reason text =>
      cases herror
      exact .malformed hfile hread
    | wrongRoot format text =>
      -- what is read as JSON has a root of JSON
      cases format with
      | json =>
        cases herror
        exact .wrongRoot hfile hread
      | yaml =>
        unfold Document.read Document.ofText at hread
        split at hread
        · cases hread
        · cases hread
        · cases hread
        · split at hread <;> cases hread
    | record fields text => cases herror

/-- The characters of which one stands in the text of every reason. -/
def reasonMarks : List Char := ['M', '[', '8', '(', 'J']

theorem mem_toList_append {a b : String} {c : Char} (h : c ∈ a.toList) : c ∈ (a ++ b).toList := by
  rw [String.toList_append]
  exact List.mem_append_left _ h

/-- The text of a reason says that a manifest is missing, or names the number of an error, the
encoding, a place in the text, or the format. -/
theorem FailsToLoad.exists_mark (h : FailsToLoad t kind file reason) :
    ∃ c ∈ reason.toList, c ∈ reasonMarks := by
  cases h with
  | missing _ => exact ⟨'M', mem_toList_append (mem_toList_append (by decide)), by decide⟩
  | unreadable _ hread =>
    unfold Document.read at hread
    split at hread
    · cases hread
    · rename_i fault _
      have hreason := Document.unreadable.inj (Except.ok.inj hread)
      refine ⟨'[', ?_, by decide⟩
      rw [← hreason]
      iterate 5 apply mem_toList_append
      decide
    · rename_i fault _
      have hreason := Document.unreadable.inj (Except.ok.inj hread)
      refine ⟨'8', ?_, by decide⟩
      rw [← hreason]
      exact mem_toList_append (mem_toList_append (mem_toList_append (by decide)))
    · unfold Document.ofText at hread
      split at hread <;> cases hread
  | malformed _ hread =>
    obtain ⟨problem, offset, rfl⟩ := Document.exists_describe hread
    refine ⟨'(', mem_toList_append (mem_toList_append ?_), by decide⟩
    rw [String.toList_append]
    exact List.mem_append_right _ (by decide)
  | wrongRoot _ _ => exact ⟨'J', by decide, by decide⟩

/-- The file of the manifest of an entity: it lies in the directory of the entity, and is named
after it. -/
def manifestPlace (root : Path) (folder name : String) : Path :=
  below root [folder, name, name ++ ".json"]

/-- The path of the manifest of an entity tells of which one. -/
theorem manifestPlace_injective {name' : String}
    (h : manifestPlace root folder name = manifestPlace root folder' name') :
    folder = folder' ∧ name = name' := by
  have hnames := below_injective h
  rw [List.cons.injEq, List.cons.injEq] at hnames
  exact ⟨hnames.1, hnames.2.1⟩

section Place

variable (hroot : root.Proper) (habsolute : root.isAbsolute = true) (hfolder : Path.IsName folder)
  (hname : IsFileName name)

include hroot habsolute hfolder hname

/-- The path of the manifest of an entity has proper names. -/
theorem manifestPlace_proper :
    (manifestPlace root folder name).Proper ∧
      (manifestPlace root folder name).isAbsolute = true := by
  refine ⟨fun n hn => ?_, habsolute⟩
  rcases List.mem_append.mp hn with hn | hn
  · exact hroot n hn
  · simp only [List.mem_cons, List.not_mem_nil, or_false] at hn
    rcases hn with rfl | rfl | rfl
    · exact hfolder
    · exact hname.1
    · exact (isName_json hname.1.2.2).1

/-- A path with proper names is told apart from that of the manifest of an entity by its text. -/
theorem eq_manifestPlace_of_text {path : Path} (hpath : path.Proper)
    (hpathAbsolute : path.isAbsolute = true)
    (htext : path.text = (manifestPlace root folder name).text) :
    path = manifestPlace root folder name := by
  obtain ⟨hproper, habs⟩ := manifestPlace_proper hroot habsolute hfolder hname
  exact Path.text_injective hpath hproper hpathAbsolute habs htext

end Place

section Entity

variable {α : Type} {shape : RecordShape Shape} {build : Fields → α} {e : Entity α}

/-- An entity has the text of a reason exactly if there is the reason. -/
theorem error_eq_some_iff (h : entity t kind shape build dir = .ok e) :
    e.error = some reason ↔ FailsToLoad t kind e.manifestPath reason := by
  unfold entity at h
  obtain ⟨isFile, hfile, h⟩ := bind_eq_ok.mp h
  have hfile := access_eq_ok_iff.mp hfile
  cases isFile with
  | false =>
    obtain rfl := pure_eq_ok.mp h
    constructor
    · rintro ⟨⟩
      exact .missing hfile
    · intro hfails
      cases hfails with
      | missing _ => rfl
      | unreadable hfile' _ | malformed hfile' _ | wrongRoot hfile' _ =>
        cases hfile.symm.trans hfile'
  | true =>
    obtain ⟨document, hread, h⟩ := bind_eq_ok.mp h
    have hreason : FailsToLoad t kind (dir.entry (dir.name ++ ".json")) reason ↔
        document.error? = some reason := failsToLoad_iff_of_read hfile hread
    cases hdocument : document with
    | record fields text =>
      rw [hdocument] at h hreason
      obtain ⟨loaded, -, h⟩ := bind_eq_ok.mp h
      obtain rfl := pure_eq_ok.mp h
      exact hreason.symm
    | _ =>
      rw [hdocument] at h hreason
      obtain rfl := pure_eq_ok.mp h
      exact hreason.symm

/-- The entities are those of the directories in a folder. -/
def EntitiesOf (t : FileTree) (root : Path) (folder kind : String) (shape : RecordShape Shape)
    (build : Fields → α) (es : List (Entity α)) : Prop :=
  ∃ dirs, subdirectories t (root.entry folder) = .ok dirs ∧
    List.Forall₂ (fun dir e => entity t kind shape build dir = .ok e) dirs es

namespace EntitiesOf

variable {es : List (Entity α)} (h : EntitiesOf t root folder kind shape build es)
  (ht : t.WellFormed) (hfolder : (root.entry folder).Proper)

include h ht hfolder

/-- Each entity stands for a directory, and was read there. -/
theorem mem (he : e ∈ es) :
    IsFileName e.name ∧ e.dir = (root.entry folder).entry e.name ∧
      e.manifestPath = e.dir.entry (e.name ++ ".json") ∧ t.end? e.dir = some .directory ∧
      entity t kind shape build e.dir = .ok e := by
  obtain ⟨dirs, hdirs, hes⟩ := h
  obtain ⟨d, hd, hload⟩ := hes.exists_of_mem_right he
  obtain ⟨name, hname, hdir, hend⟩ := ((subdirectories_eq_ok ht hfolder hdirs).2 d).mp hd
  have hstands := (entity_eq_ok hload).1
  have hdirName : d.name = name := by rw [hdir]; simp [Path.entry, Path.name]
  have hename : e.name = name := hstands.name.trans hdirName
  have hedir : e.dir = d := hstands.folder
  refine ⟨hename ▸ hname, ?_, ?_, hedir ▸ hend, hedir ▸ hload⟩
  · rw [hedir, hdir, hename]
  · rw [hstands.manifestPath, hedir, hdirName, hename]

/-- Each directory has its entity. -/
theorem exists_mem (hname : IsFileName name)
    (hend : t.end? ((root.entry folder).entry name) = some .directory) :
    ∃ e ∈ es, e.name = name := by
  obtain ⟨dirs, hdirs, hes⟩ := h
  have hmem := ((subdirectories_eq_ok ht hfolder hdirs).2 _).mpr ⟨name, hname, rfl, hend⟩
  obtain ⟨e, he, hload⟩ := hes.flip.exists_of_mem_right hmem
  refine ⟨e, he, ?_⟩
  rw [(entity_eq_ok hload).1.name]
  simp [Path.entry, Path.name]

/-- No two entities have the same directory. -/
theorem nodup_dirs : (es.map Entity.dir).Nodup := by
  obtain ⟨dirs, hdirs, hes⟩ := h
  have hmap : es.map Entity.dir = dirs.map id :=
    hes.map_eq fun d e hload => (entity_eq_ok hload).1.folder
  rw [hmap, List.map_id]
  refine (subdirectories_eq_ok ht hfolder hdirs).1.imp fun {d d'} hlt heq => ?_
  rw [heq] at hlt
  exact absurd hlt (lt_irrefl _)

end EntitiesOf

/-- The entity stands for the directory of its name in a folder, and if it has no manifest it has
the text of the reason. -/
structure EntityAt (t : FileTree) (root : Path) (folder kind : String) (e : Entity α) : Prop where
  /-- The name can be that of a file. -/
  isFileName : IsFileName e.name
  /-- The directory is there. -/
  isDirectory : t.end? ((root.entry folder).entry e.name) = some .directory
  /-- The manifest lies in the directory and is named after it. -/
  manifestPath : e.manifestPath = manifestPlace root folder e.name
  /-- The entity tells why it has no manifest. -/
  error : ∀ reason, e.error = some reason ↔ FailsToLoad t kind e.manifestPath reason
  /-- There is no manifest besides. -/
  manifest : ∀ reason, e.error = some reason → e.manifest = none

/-- Each entity stands for a directory and tells why it has no manifest. -/
theorem EntitiesOf.entityAt {es : List (Entity α)}
    (h : EntitiesOf t root folder kind shape build es) (ht : t.WellFormed)
    (hfolder : (root.entry folder).Proper) (he : e ∈ es) :
    EntityAt t root folder kind e := by
  obtain ⟨hname, hdir, hpath, hend, hload⟩ := h.mem ht hfolder he
  refine ⟨hname, hdir ▸ hend, ?_, fun _ => error_eq_some_iff hload, fun _ => manifest_eq_none hload⟩
  rw [hpath, hdir, manifestPlace, below_cons, below_cons, below_cons, below_nil]

theorem EntityAt.bare (h : EntityAt t root folder kind e) : EntityAt t root folder kind e.bare := by
  refine ⟨h.isFileName, h.isDirectory, h.manifestPath, h.error, fun reason hreason => ?_⟩
  show e.manifest.map _ = none
  rw [h.manifest reason hreason, Option.map_none]

/-- No two entities have manifests whose paths have the same text. -/
theorem EntitiesOf.nodup_manifests {es : List (Entity α)}
    (h : EntitiesOf t root folder kind shape build es) (ht : t.WellFormed) (hroot : root.Proper)
    (habsolute : root.isAbsolute = true) (hfolder : Path.IsName folder) :
    (es.map fun e => e.manifestPath.text).Nodup := by
  have hdir : (root.entry folder).Proper := Path.entry_proper hroot hfolder
  refine List.Nodup.map_on (fun e he e' he' htext => ?_) (h.nodup_dirs ht hdir).of_map
  have hat := h.entityAt ht hdir he
  have hat' := h.entityAt ht hdir he'
  -- manifests with one path lie in one directory
  obtain ⟨hproper, habs⟩ := manifestPlace_proper hroot habsolute hfolder hat.isFileName
  have hpath := eq_manifestPlace_of_text hroot habsolute hfolder hat'.isFileName hproper habs
    (by rw [← hat.manifestPath, ← hat'.manifestPath, htext])
  refine List.inj_on_of_nodup_map (h.nodup_dirs ht hdir) he he' ?_
  rw [(h.mem ht hdir he).2.1, (h.mem ht hdir he').2.1, (manifestPlace_injective hpath).2]

end Entity

end Index

namespace Package.Indexed

open Index Manifest

variable {t : FileTree} {p : Package} (h : p.Indexed t)

include h

theorem agentEntities : EntitiesOf t p.root "agents" "agent" agentShape agent p.agents :=
  agents_eq_ok_iff.mp h.agents

theorem toolsetEntities :
    EntitiesOf t p.root "toolsets" "toolset" toolsetShape toolsetManifest
      (p.toolsets.map Toolset.entity) := by
  obtain ⟨dirs, hdirs, hss⟩ := toolsets_eq_ok_iff.mp h.toolsets
  refine ⟨dirs, hdirs, List.forall₂_map_right_iff.mpr (hss.imp fun dir s hs => ?_)⟩
  exact (toolset_eq_ok_iff.mp hs).1

theorem evaluationEntities :
    EntitiesOf t p.root "evaluations" "evaluation" evaluationShape evaluation p.evaluations :=
  evaluations_eq_ok_iff.mp h.evaluations

theorem scriptToolEntities :
    EntitiesOf t p.root "tools" "script tool" scriptToolShape scriptTool p.scriptTools :=
  scriptTools_eq_ok_iff.mp h.scriptTools

end Package.Indexed

end AgentPackage
