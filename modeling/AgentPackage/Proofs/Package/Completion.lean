import AgentPackage.Proofs.Document.Plain
import AgentPackage.Proofs.Json.Values
import AgentPackage.Proofs.Package.Scans

/-!
# When a package has a model

Indexing asks for files and directories by their paths, scans directories and reads documents. A
package has a model if no path that is asked for is too long, if it can be told what the entries of
all directories that are scanned lead to, and if the documents and their keys can be taken up: they
have to be plain, and there has to be room for the calls that read and copy them.

## Main definitions

* `Index.Asked`, `Index.Scanned`, `Index.ReadAs`: the paths, the directories and the documents that
  indexing asks for, scans and reads;
* `Package.Indexable`: none of them stands in the way of a model.

## Main results

* `Package.exists_build`: a package that is indexable has a model.
-/

namespace AgentPackage

open Except FileTree

variable {t : FileTree}

namespace Index

/-- The names of the folders that hold the folders of entities. -/
def entityFolders : List String :=
  ["agents", "toolsets", "evaluations", "tools"]

/-- The names in the root that indexing asks for. -/
def rootNames : List String :=
  [appYamlName, appJsonName, environmentName, globalInstructionName, "guardrails"] ++ entityFolders

/-- The path is that of a directory in the folder of a kind. -/
def IsFolderIn (t : FileTree) (root : Path) (folder : String) (dir : Path) : Prop :=
  ∃ name, IsFileName name ∧ dir = (root.entry folder).entry name ∧ t.end? dir = some .directory

/-- The paths that indexing asks for. -/
inductive Asked (t : FileTree) (root : Path) : Path → Prop
  /-- The root is to be a directory. -/
  | root : Asked t root root
  /-- The root holds files and folders under fixed names. -/
  | inRoot {name : String} : name ∈ rootNames → Asked t root (root.entry name)
  /-- The folder of an entity holds its manifest. -/
  | manifest {folder : String} {dir : Path} : folder ∈ entityFolders →
      IsFolderIn t root folder dir → Asked t root (dir.entry (dir.name ++ ".json"))
  /-- The folder of an agent holds its instruction. -/
  | instruction {dir : Path} : IsFolderIn t root "agents" dir →
      Asked t root (dir.entry instructionName)
  /-- The folder of a toolset holds a folder for its schema. -/
  | schemaDir {dir : Path} : IsFolderIn t root "toolsets" dir →
      Asked t root (dir.entry schemaDirName)

/-- The directories that indexing scans. -/
inductive Scanned (t : FileTree) (root : Path) : Path → Prop
  /-- The listing goes on at the root and below it. -/
  | entered {names : List String} : (∀ n ∈ names, IsFileName n) → Entered t root names →
      t.end? (below root names) = some .directory → Scanned t root (below root names)
  /-- The folders of a kind are scanned for those of entities and guardrails. -/
  | folder {folder : String} : folder ∈ "guardrails" :: entityFolders →
      t.end? (root.entry folder) = some .directory → Scanned t root (root.entry folder)
  /-- The folders for schemas are scanned. -/
  | schemaDir {dir : Path} : IsFolderIn t root "toolsets" dir →
      t.end? (dir.entry schemaDirName) = some .directory →
        Scanned t root (dir.entry schemaDirName)

/-- The documents that indexing reads, if they are files. -/
inductive ReadAs (t : FileTree) (root : Path) : Format → Path → Prop
  /-- The YAML manifest of the package. -/
  | appYaml : ReadAs t root .yaml (root.entry appYamlName)
  /-- The JSON manifest of the package. -/
  | appJson : ReadAs t root .json (root.entry appJsonName)
  /-- The environment file. -/
  | environment : ReadAs t root .json (root.entry environmentName)
  /-- The manifests of entities. -/
  | manifest {folder : String} {dir : Path} : folder ∈ entityFolders →
      IsFolderIn t root folder dir → ReadAs t root .json (dir.entry (dir.name ++ ".json"))

end Index

open Index

/-- Nothing that indexing asks for, scans or reads stands in the way of a model. -/
structure Package.Indexable (t : FileTree) (root : Path) : Prop where
  /-- No path that is asked for is too long. -/
  asked : ∀ path, Asked t root path → t.stat path ≠ .error .nameTooLong
  /-- It can be told what the entries of the directories that are scanned lead to. -/
  scanned : ∀ dir, Scanned t root dir → Scans t dir
  /-- All scalars of the documents that are read denote values, and there is room for reading them. -/
  read : ∀ format path, ReadAs t root format path → t.isFile path = .ok true →
    ∃ document, Document.read t format path = .ok document
  /-- The documents that are read are plain. -/
  plain : ∀ format path text, ReadAs t root format path → t.readText path path = .ok text →
    Document.Plain format text
  /-- There is room for copying the documents that are read. -/
  room : ∀ format path fields text, ReadAs t root format path →
    Document.read t format path = .ok (.record fields text) → fields.copyCalls ≤ callRoom
  /-- The keys of the manifest of the package are strings. -/
  keys : ∀ fields text, Document.read t .yaml (root.entry appYamlName) = .ok (.record fields text) →
    fields.HasStringKeys

namespace Index

section Steps

variable {root dir : Path} {test : Entry → Bool}

/-- A question about a path that is not too long is answered. -/
theorem exists_probe {path : Path} (h : t.stat path ≠ .error .nameTooLong) :
    ∃ b, t.probe test path = .ok b := by
  unfold probe
  split
  · exact ⟨_, rfl⟩
  · cases hstat : t.stat path with
    | ok e => exact ⟨_, rfl⟩
    | error e =>
      rw [hstat] at h
      cases e with
      | nameTooLong => exact absurd rfl h
      | _ => exact ⟨_, rfl⟩

theorem exists_access {α : Type} {path : Path} {x : Except AccessError α} (h : ∃ a, x = .ok a) :
    ∃ a, Package.access path x = .ok a := by
  obtain ⟨a, ha⟩ := h
  exact ⟨a, access_eq_ok_iff.mpr ha⟩

/-- If it can be told what an entry leads to, every question about it is answered. -/
theorem exists_leadsTo {l : Listed} (h : ∃ k, kindOf t l = .ok k) :
    ∃ b, lift (l.leadsTo t test) = .ok b := by
  obtain ⟨k, hk⟩ := h
  unfold kindOf at hk
  obtain ⟨b, hb, -⟩ := bind_eq_ok.mp hk
  have hb := lift_eq_ok_iff.mp hb
  unfold Listed.isDirectory Listed.leadsTo at hb
  simp only [lift_eq_ok_iff]
  unfold Listed.leadsTo
  split
  · rename_i target hentry
    rw [hentry] at hb
    dsimp only at hb
    split
    · exact ⟨_, rfl⟩
    · exact ⟨_, rfl⟩
    · rename_i e hne hstat
      rw [hstat] at hb
      cases e with
      | notFound => exact absurd rfl hne
      | _ => cases hb
  · exact ⟨_, rfl⟩

/-- The entries of a directory are listed if it can be scanned. -/
theorem exists_entries (ht : t.WellFormed) (hasked : t.stat dir ≠ .error .nameTooLong)
    (hscan : t.end? dir = some .directory → Scans t dir) :
    ∃ listed, entries t dir = .ok listed ∧
      ∀ l ∈ listed, ∀ test, ∃ b, lift (l.leadsTo t test) = .ok b := by
  obtain ⟨b, hb⟩ : ∃ b, Package.access dir (t.isDirectory dir) = .ok b :=
    exists_access (exists_probe hasked)
  have hdirectory := access_isDirectory_eq_ok ht hb
  cases b with
  | false =>
    -- what is no directory has no entries
    refine ⟨[], ?_, fun l hl => (nomatch hl)⟩
    exact bind_eq_ok.mpr ⟨false, hb, rfl⟩
  | true =>
    obtain ⟨listed, hlisted, hkind⟩ := hscan (hdirectory.mp rfl)
    refine ⟨listed, ?_, fun l hl test => exists_leadsTo (hkind l hl)⟩
    exact bind_eq_ok.mpr ⟨true, hb, lift_eq_ok_iff.mpr hlisted⟩

/-- The folders in a directory are found if it can be scanned. -/
theorem exists_subdirectories (ht : t.WellFormed) (hasked : t.stat dir ≠ .error .nameTooLong)
    (hscan : t.end? dir = some .directory → Scans t dir) :
    ∃ dirs, subdirectories t dir = .ok dirs := by
  obtain ⟨listed, hlisted, htest⟩ := exists_entries ht hasked hscan
  refine exists_bind ⟨listed, hlisted⟩ fun listed' hlisted' => ?_
  cases hlisted.symm.trans hlisted'
  exact exists_bind (exists_filterM fun l hl => htest l hl isFolder) fun kept _ => ⟨_, rfl⟩

/-- The first schema in a directory is found if it can be scanned. -/
theorem exists_firstSchema (ht : t.WellFormed) (hasked : t.stat dir ≠ .error .nameTooLong)
    (hscan : t.end? dir = some .directory → Scans t dir) :
    ∃ schema, firstSchema t dir = .ok schema := by
  obtain ⟨listed, hlisted, htest⟩ := exists_entries ht hasked hscan
  have hfirst : ∃ found, firstM (isSchema t) listed = .ok found := by
    clear hlisted
    induction listed with
    | nil => exact ⟨none, rfl⟩
    | cons l ls ih =>
      obtain ⟨hl, hls⟩ := List.forall_mem_cons.mp htest
      refine exists_bind (exists_bind (hl isRegular) fun b _ => ⟨_, rfl⟩) fun b _ => ?_
      cases b with
      | true => exact ⟨_, rfl⟩
      | false => exact ih hls
  refine exists_bind ⟨listed, hlisted⟩ fun listed' hlisted' => ?_
  cases hlisted.symm.trans hlisted'
  exact exists_bind hfirst fun found _ => ⟨_, rfl⟩

end Steps

section Parts

variable {root : Path} (h : Package.Indexable t root) (ht : t.WellFormed) (hroot : root.Proper)

include h

/-- Whether a path is that of a file is answered if it is asked for. -/
theorem exists_isFile {path : Path} (hasked : Asked t root path) :
    ∃ b, Package.access path (t.isFile path) = .ok b :=
  exists_access (exists_probe (h.asked path hasked))

/-- The entity of a folder is loaded. -/
theorem exists_entity {α : Type} {kind : String} {shape : RecordShape Shape} {build : Fields → α}
    {folder : String} (hfolder : folder ∈ entityFolders) {dir : Path}
    (hdir : IsFolderIn t root folder dir) : ∃ e, entity t kind shape build dir = .ok e := by
  refine exists_bind (exists_isFile h (.manifest hfolder hdir)) fun isFile hfile => ?_
  cases isFile with
  | false => exact ⟨_, rfl⟩
  | true =>
    refine exists_bind (h.read _ _ (.manifest hfolder hdir) (access_eq_ok_iff.mp hfile))
      fun document hread => ?_
    cases document with
    | record fields text =>
      have hkeys := Json.hasStringKeys_of_readDocument hread
      have hroom := h.room _ _ fields text (.manifest hfolder hdir) hread
      exact exists_bind (Manifest.exists_load shape build hroom hkeys) fun result _ => ⟨_, rfl⟩
    | _ => exact ⟨_, rfl⟩

/-- The manifest of the package is loaded. -/
theorem exists_appPart {format : Format} {path : Path} (hpath : ReadAs t root format path)
    (hformat : Document.formatOf? path = some format) (hfile : t.isFile path = .ok true)
    (hkeys : ∀ fields text, Document.read t format path = .ok (.record fields text) →
      fields.HasStringKeys) :
    ∃ part, appPart t (some path) = .ok part := by
  have hread : Document.readByExtension t path = Document.read t format path := by
    unfold Document.readByExtension
    rw [hformat]
  unfold appPart
  dsimp only
  rw [hread]
  refine exists_bind (h.read format path hpath hfile) fun document hdocument => ?_
  cases document with
  | record fields text =>
    have hroom := h.room _ _ fields text hpath hdocument
    exact exists_bind (Manifest.exists_load _ _ hroom (hkeys fields text hdocument))
      fun result _ => ⟨_, rfl⟩
  | _ => exact ⟨_, rfl⟩

omit h in
/-- An instruction whose file is asked for is read. -/
theorem exists_instruction? {path : Path} (hasked : t.stat path ≠ .error .nameTooLong)
    (agentName : String) : ∃ i, instruction? t agentName path = .ok i := by
  refine exists_bind (exists_access (exists_probe hasked)) fun isFile hfile => ?_
  cases isFile with
  | false => exact ⟨_, rfl⟩
  | true =>
    refine exists_bind ?_ fun i _ => ⟨_, rfl⟩
    -- a file has a name that can be asked for
    have hname := (probe_eq_true (access_eq_ok_iff.mp hfile)).1
    unfold Markup.parseFile
    split
    · exact ⟨_, rfl⟩
    · exact absurd ‹_› (readText_ne_unnameable hname)
    · exact ⟨_, rfl⟩
    · exact ⟨_, rfl⟩

include ht hroot

/-- The folders in the folder of a kind are found. -/
theorem exists_folders {folder : String} (hfolder : folder ∈ "guardrails" :: entityFolders) :
    ∃ dirs, subdirectories t (root.entry folder) = .ok dirs ∧
      ∀ d ∈ dirs, IsFolderIn t root folder d := by
  have hname : ∀ folder ∈ "guardrails" :: entityFolders,
      IsFileName folder ∧ folder ∈ rootNames := by
    decide +kernel
  obtain ⟨hname, hasked⟩ := hname folder hfolder
  obtain ⟨dirs, hdirs⟩ := exists_subdirectories ht (h.asked _ (.inRoot hasked)) fun hend =>
    h.scanned _ (.folder hfolder hend)
  have hmem := (subdirectories_eq_ok ht (Path.entry_proper hroot hname.1) hdirs).2
  exact ⟨dirs, hdirs, fun d hd => (hmem d).mp hd⟩

/-- What is made of each folder in the folder of a kind is made of all of them. -/
theorem exists_mapM_folders {α : Type} {folder : String} (hfolder : folder ∈ entityFolders)
    {f : Path → Except Failure α} (hf : ∀ d, IsFolderIn t root folder d → ∃ a, f d = .ok a) :
    ∃ as, (do (← subdirectories t (root.entry folder)).mapM f) = .ok as := by
  obtain ⟨dirs, hdirs, hfolders⟩ := exists_folders h ht hroot (List.mem_cons_of_mem _ hfolder)
  refine exists_bind ⟨dirs, hdirs⟩ fun dirs' hdirs' => ?_
  cases hdirs.symm.trans hdirs'
  exact exists_mapM fun d hd => hf d (hfolders d hd)

/-- The toolsets are loaded. -/
theorem exists_toolsets : ∃ ss, toolsets t root = .ok ss := by
  refine exists_mapM_folders h ht hroot (by decide) fun d hd => ?_
  refine exists_bind (exists_entity h (by decide) hd) fun e _ => ?_
  refine exists_bind ?_ fun schema _ => ⟨_, rfl⟩
  exact exists_firstSchema ht (h.asked _ (.schemaDir hd)) fun hend =>
    h.scanned _ (.schemaDir hd hend)

/-- The instructions are read. -/
theorem exists_instructions {agents : List (Entity AgentManifest)}
    (hagents : Index.agents t root = .ok agents) : ∃ is, instructions t root agents = .ok is := by
  -- the folders of the agents are the ones that were found
  have hown : ∀ a ∈ agents, IsFolderIn t root "agents" a.dir := by
    intro a ha
    obtain ⟨dirs, hdirs, hes⟩ := agents_eq_ok_iff.mp hagents
    obtain ⟨d, hd, he⟩ := hes.exists_of_mem_right ha
    rw [(entity_eq_ok he).1.folder]
    exact ((subdirectories_eq_ok ht (Path.entry_proper hroot (by decide)) hdirs).2 d).mp hd
  refine exists_bind (exists_mapM fun a ha => ?_) fun own _ =>
    exists_bind ?_ fun whole _ => ⟨_, rfl⟩
  · exact exists_instruction? (h.asked _ (.instruction (hown a ha))) a.name
  · exact exists_instruction? (h.asked _ (.inRoot (by decide))) globalAgentName

omit hroot in
/-- The root is listed by its names. -/
theorem exists_topLevel : ∃ names, topLevel t root = .ok names := by
  -- the listing starts at the root
  have hscan : t.end? root = some .directory → Scans t root := fun hend => by
    have hscanned : Scanned t root (below root []) :=
      .entered (fun n hn => (nomatch hn)) entered_nil (by rwa [below_nil])
    rw [below_nil] at hscanned
    exact h.scanned root hscanned
  obtain ⟨listed, hlisted, htest⟩ := exists_entries ht (h.asked root .root) hscan
  refine exists_bind ⟨listed, hlisted⟩ fun listed' hlisted' => ?_
  cases hlisted.symm.trans hlisted'
  refine exists_bind (exists_filterM fun l hl => htest l hl isRegular) fun files _ => ?_
  exact exists_bind (exists_filterM fun l hl => htest l hl isFolder) fun dirs _ => ⟨_, rfl⟩

omit ht hroot in
/-- The manifest of the package is loaded from its YAML file or, without one, from its JSON file. -/
theorem exists_app {hasYaml hasJson : Bool}
    (hyaml : t.isFile (root.entry appYamlName) = .ok hasYaml)
    (hjson : t.isFile (root.entry appJsonName) = .ok hasJson) :
    ∃ part, appPart t (if hasYaml then some (root.entry appYamlName)
      else if hasJson then some (root.entry appJsonName) else none) = .ok part := by
  have hformat : Document.formatOf? (root.entry appYamlName) = some .yaml ∧
      Document.formatOf? (root.entry appJsonName) = some .json := by
    have hname : ∀ name, (root.entry name).name = name := fun name => by
      simp [Path.entry, Path.name]
    unfold Document.formatOf? Path.extension
    rw [hname, hname]
    decide +kernel
  cases hasYaml with
  | true => exact exists_appPart h .appYaml hformat.1 hyaml h.keys
  | false =>
    cases hasJson with
    | true =>
      exact exists_appPart h .appJson hformat.2 hjson fun fields text =>
        Json.hasStringKeys_of_readDocument
    | false => exact ⟨_, rfl⟩

omit ht hroot in
/-- The environment is read if there is one. -/
theorem exists_environment? : ∃ e, environment? t root = .ok e := by
  refine exists_bind (exists_isFile h (.inRoot (by decide))) fun isFile hfile => ?_
  cases isFile with
  | false => exact ⟨_, rfl⟩
  | true =>
    exact exists_bind (h.read _ _ .environment (access_eq_ok_iff.mp hfile)) fun document _ =>
      ⟨_, rfl⟩

/-- The listing is given. -/
theorem exists_listing : ∃ l, listing t root = .ok l := by
  refine (exists_listing_iff ht hroot).mpr ⟨exists_probe (h.asked root .root), ?_⟩
  exact fun names hnames hentered hend => h.scanned _ (.entered hnames hentered hend)

/-- The entities of a kind are loaded. -/
theorem exists_entities {α : Type} {kind : String} {shape : RecordShape Shape}
    {build : Fields → α} {folder : String} (hfolder : folder ∈ entityFolders) :
    ∃ es, (do (← subdirectories t (root.entry folder)).mapM (entity t kind shape build)) =
      .ok es :=
  exists_mapM_folders h ht hroot hfolder fun _ hd => exists_entity h hfolder hd

/-- The package with a root that is indexable has a model. -/
theorem exists_index : ∃ p, Package.index t root = .ok p := by
  -- the steps of indexing in their order
  refine exists_bind (exists_isFile h (.inRoot (by decide))) fun hasYaml hyaml => ?_
  refine exists_bind (exists_isFile h (.inRoot (by decide))) fun hasJson hjson => ?_
  refine exists_bind (exists_app h (access_eq_ok_iff.mp hyaml) (access_eq_ok_iff.mp hjson))
    fun app _ => ?_
  refine exists_bind (exists_listing h ht hroot) fun l _ => ?_
  refine exists_bind (exists_topLevel h ht) fun top _ => ?_
  refine exists_bind (exists_entities h ht hroot (by decide)) fun agents hagents => ?_
  refine exists_bind (exists_toolsets h ht hroot) fun toolsets _ => ?_
  refine exists_bind (exists_entities h ht hroot (by decide)) fun evaluations _ => ?_
  refine exists_bind (exists_entities h ht hroot (by decide)) fun scriptTools _ => ?_
  refine exists_bind (exists_instructions h ht hroot hagents) fun instructions _ => ?_
  obtain ⟨dirs, hdirs, -⟩ := exists_folders h ht hroot List.mem_cons_self
  refine exists_bind ⟨dirs, hdirs⟩ fun guardrailDirs _ => ?_
  exact exists_bind (exists_environment? h) fun environment _ => ⟨_, rfl⟩

end Parts

end Index

namespace Package

variable {cwd path : Path}

section Tangled

/-- A package with an agent under two names, a link to nothing and one to the package itself. -/
def tangled : FileTree :=
  ⟨[(["p"], .directory), (["p", "app.json"], .file "\x7b\x7d".toUTF8),
    (["p", "agents"], .directory), (["p", "agents", "again"], .link "greeter"),
    (["p", "agents", "greeter"], .directory),
    (["p", "agents", "greeter", "greeter.json"], .file "\x7b\x7d".toUTF8),
    (["p", "agents", "greeter", "up"], .link "../.."), (["p", "gone"], .link "none")]⟩

/-- A package with a link that leads to itself. -/
def looped : FileTree :=
  ⟨[(["p"], .directory), (["p", "app.json"], .file "\x7b\x7d".toUTF8),
    (["p", "loop"], .link "loop")]⟩

/-- The root of the two packages. -/
def tangledRoot : Path :=
  ⟨.root, ["p"]⟩

/-- The folders of the agents of the tangled package. -/
def tangledFolders : List Path :=
  [⟨.root, ["p", "agents", "again"]⟩, ⟨.root, ["p", "agents", "greeter"]⟩]

set_option maxRecDepth 10000 in
theorem wellFormed_tangled : tangled.WellFormed := by
  decide

theorem proper_tangledRoot : tangledRoot.Proper := by
  decide

set_option maxRecDepth 10000 in
/-- The folders of entities in the tangled package are those of its agents. -/
theorem mem_tangledFolders {folder : String} (hfolder : folder ∈ entityFolders) {dir : Path}
    (hdir : IsFolderIn tangled tangledRoot folder dir) : dir ∈ tangledFolders := by
  have hall : ∀ folder ∈ entityFolders, IsFileName folder ∧
      ∃ dirs, subdirectories tangled (tangledRoot.entry folder) = .ok dirs ∧
        ∀ d ∈ dirs, d ∈ tangledFolders := by
    decide +kernel
  obtain ⟨hname, dirs, hdirs, hmem⟩ := hall folder hfolder
  have hfound := (subdirectories_eq_ok wellFormed_tangled
    (Path.entry_proper proper_tangledRoot hname.1) hdirs).2
  exact hmem dir ((hfound dir).mpr hdir)

/-- The places of the documents of the tangled package, the first and the third of which are empty. -/
def tangledDocuments : List (Format × Path) :=
  [(.yaml, tangledRoot.entry appYamlName), (.json, tangledRoot.entry appJsonName),
    (.json, tangledRoot.entry environmentName),
    (.json, ⟨.root, ["p", "agents", "again", "again.json"]⟩),
    (.json, ⟨.root, ["p", "agents", "greeter", "greeter.json"]⟩)]

theorem mem_tangledDocuments {format : Format} {path : Path}
    (h : ReadAs tangled tangledRoot format path) : (format, path) ∈ tangledDocuments := by
  cases h with
  | appYaml | appJson | environment => simp [tangledDocuments]
  | manifest hfolder hdir =>
    have hall : ∀ dir ∈ tangledFolders,
        (Format.json, dir.entry (dir.name ++ ".json")) ∈ tangledDocuments := by
      decide
    exact hall _ (mem_tangledFolders hfolder hdir)

set_option maxRecDepth 10000 in
/-- The documents of the tangled package can be read and copied. -/
theorem readable_tangledDocuments : ∀ d ∈ tangledDocuments,
    (∃ document, Document.read tangled d.1 d.2 = .ok document ∧
      document.fields?.all (fun fields => decide (fields.copyCalls ≤ callRoom)) = true) ∧
    (tangled.readText d.2 d.2).toOption.all (fun text => decide (Document.Plain d.1 text)) =
      true := by
  decide +kernel

set_option maxRecDepth 10000 in
/-- The tangled package is indexable. -/
theorem indexable_tangled : Indexable tangled tangledRoot := by
  refine ⟨fun path hasked => ?_, fun dir hscanned => ?_, fun format path hdocument _ => ?_,
    fun format path text hdocument htext => ?_, fun format path fields text hdocument hread => ?_,
    fun fields text h => ?_⟩
  · have hall : ∀ dir ∈ tangledFolders,
        tangled.stat (dir.entry (dir.name ++ ".json")) ≠ .error .nameTooLong ∧
          tangled.stat (dir.entry instructionName) ≠ .error .nameTooLong ∧
            tangled.stat (dir.entry schemaDirName) ≠ .error .nameTooLong := by
      decide +kernel
    cases hasked with
    | root => decide +kernel
    | inRoot hname =>
      have hnames : ∀ name ∈ rootNames,
          tangled.stat (tangledRoot.entry name) ≠ .error .nameTooLong := by
        decide +kernel
      exact hnames _ hname
    | manifest hfolder hdir => exact (hall _ (mem_tangledFolders hfolder hdir)).1
    | instruction hdir => exact (hall _ (mem_tangledFolders (by decide) hdir)).2.1
    | schemaDir hdir => exact (hall _ (mem_tangledFolders (by decide) hdir)).2.2
  · have hfolder : ∀ folder ∈ "guardrails" :: entityFolders,
        (tangled.end? (tangledRoot.entry folder)).any isFolder = true →
          Scans tangled (tangledRoot.entry folder) := by
      decide +kernel
    have hschema : ∀ dir ∈ tangledFolders,
        (tangled.end? (dir.entry schemaDirName)).any isFolder = true →
          Scans tangled (dir.entry schemaDirName) := by
      decide +kernel
    cases hscanned with
    | entered hnames hentered hend =>
      have hlisting : ∃ l, listing tangled tangledRoot = .ok l := by
        decide +kernel
      exact ((exists_listing_iff wellFormed_tangled proper_tangledRoot).mp hlisting).2 _ hnames
        hentered hend
    | folder hname hend => exact hfolder _ hname (by rw [hend]; rfl)
    | schemaDir hdir hend =>
      exact hschema _ (mem_tangledFolders (by decide) hdir) (by rw [hend]; rfl)
  · obtain ⟨⟨document, hread, -⟩, -⟩ :=
      readable_tangledDocuments _ (mem_tangledDocuments hdocument)
    exact ⟨document, hread⟩
  · have hplain := (readable_tangledDocuments _ (mem_tangledDocuments hdocument)).2
    rw [htext] at hplain
    exact of_decide_eq_true hplain
  · obtain ⟨⟨document, hread', hroom⟩, -⟩ :=
      readable_tangledDocuments _ (mem_tangledDocuments hdocument)
    cases hread.symm.trans hread'
    exact of_decide_eq_true hroom
  · have hnone : ∃ document, Document.read tangled .yaml (tangledRoot.entry appYamlName) =
        .ok document ∧ document.fields?.isNone = true := by
      decide +kernel
    obtain ⟨document, hdocument, hnone⟩ := hnone
    cases h.symm.trans hdocument
    cases hnone

set_option maxRecDepth 10000 in
/-- The package with a link that leads to itself has no model. -/
theorem not_exists_build_looped :
    looped.WellFormed ∧ tangledRoot.Proper ∧ looped.isDirectory tangledRoot = .ok true ∧
      ¬ ∃ p, Package.build looped tangledRoot tangledRoot = .ok p := by
  decide +kernel

end Tangled

end Package

end AgentPackage
