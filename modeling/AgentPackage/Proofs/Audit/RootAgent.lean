import AgentPackage.Audit.Rules.RootAgent
import AgentPackage.Proofs.Findings
import AgentPackage.Proofs.Package.Agents

/-!
# The root agent

The manifest of a package names its root agent. A name that could be that of a file is the name of
an agent exactly if nothing is reported: the agent has a directory that the listing enters, and in
it the manifest that is named after it.

## Main definitions

* `Package.HasRootAgent`: a name is that of an agent with a manifest;
* `Findings.OneError`: an error is reported, and nothing else.

## Main results

* `Package.hasRootAgent_iff`: the agents of a package and its listing agree;
* `Rule.namedRootAgent_cases`: what is reported about a name that could be that of a file;
* `Rule.rootAgent_resolved`: what the rule about the root agent reports.
-/

namespace AgentPackage

open Findings Index FileTree

/-- The name is that of an agent with a manifest. Neither the folder for agents nor the directory of
the agent is a link back to a directory on the way to it. -/
def Package.HasRootAgent (t₀ : FileTree) (p : Package) (name : String) : Prop :=
  ∃ a ∈ p.agents, a.name = name ∧
    realPlace t₀ (p.root.entry "agents") ≠ realPlace t₀ p.root ∧
    realPlace t₀ a.dir ≠ realPlace t₀ p.root ∧
    realPlace t₀ a.dir ≠ realPlace t₀ (p.root.entry "agents") ∧
    t₀.isFile a.manifestPath = .ok true

/-- The findings are one error. -/
def Findings.OneError (f : Findings) : Prop :=
  ∃ i : Issue, i.severity = .error ∧ f = one i

theorem Findings.oneError_error {code message : String} {file : Path} {line : Option Nat} :
    (error code message file line).OneError :=
  ⟨_, rfl, rfl⟩

namespace Package

variable {t₀ : FileTree} {p : Package} {name : String}

section Listing

variable (hindexed : p.Indexed t₀) (ht : t₀.WellFormed) (hroot : p.root.Proper)

include hindexed ht hroot

/-- An agent whose manifest the listing holds stands in a directory that the walk enters. -/
theorem hasRootAgent_of_mem
    (h : (p.agentDir name).entry (name ++ ".json") ∈ p.files) : p.HasRootAgent t₀ name := by
  obtain ⟨names, file, hnames, hentered, heq, content, hend⟩ :=
    ((isListing_of_eq_ok ht hroot hindexed.listing).mem_files _).mp h
  -- the names on the way are those of the folder for agents and of the agent
  rw [agentDir_entry_eq_below] at heq
  obtain ⟨rfl, -⟩ := List.append_inj' (below_injective heq) rfl
  have hfolder := hentered ["agents"] (by simp) (by simp)
  have hdir := hentered ["agents", name] (by simp) (by simp)
  rw [← agentDir_eq_below] at hdir
  obtain ⟨a, ha, rfl⟩ := hindexed.exists_agent ht hroot (hnames name (by simp)) hdir.1
  have hat := hindexed.agentAt ht hroot ha
  obtain ⟨b, hb, -⟩ := (entity_reports hat.loads).missing
  have htrue : b = true := by
    rw [ht.probe_eq_ok hb, hat.manifestPath, hat.dir, hend]
    rfl
  refine ⟨a, ha, rfl, ?_, ?_, ?_, htrue ▸ hb⟩
  · simpa [below_singleton] using hfolder.2 [] List.nil_prefix (by simp)
  · rw [hat.dir]
    simpa using hdir.2 [] List.nil_prefix (by simp)
  · rw [hat.dir, ← below_singleton]
    exact hdir.2 ["agents"] (by simp) (by simp)

/-- The listing holds the directory of the root agent and its manifest. -/
theorem HasRootAgent.mem (h : p.HasRootAgent t₀ name) :
    p.agentDir name ∈ p.directories ∧
      (p.agentDir name).entry (name ++ ".json") ∈ p.files := by
  obtain ⟨a, ha, rfl, hreal, hrealRoot, hrealFolder, hfile⟩ := h
  have hat := hindexed.agentAt ht hroot ha
  have hlisting := isListing_of_eq_ok ht hroot hindexed.listing
  have hagents : IsFileName "agents" := by decide +kernel
  have hend := hat.isDirectory
  rw [hat.dir] at hend hrealRoot hrealFolder
  have hfolder : Entered t₀ p.root ["agents"] :=
    entered_folder (ht.end?_of_append (List.cons_ne_nil a.name []) hend) hreal
  have hentered := entered_entity hfolder hend hrealRoot hrealFolder
  constructor
  · refine (hlisting.mem_directories _).mpr ⟨["agents"], a.name, ?_, hfolder, ?_, hend⟩
    · simp [hagents, hat.isFileName]
    · exact agentDir_eq_below
  · -- the manifest is a file, so that its name is that of one
    have hmanifest : t₀.isFile ((p.agentDir a.name).entry (a.name ++ ".json")) = .ok true := by
      rw [← hat.dir, ← hat.manifestPath]
      exact hfile
    obtain ⟨content, hregular⟩ :=
      Kind.ofEnd_eq_file.mp (any_isRegular.mp (ht.probe_eq_ok hmanifest).symm)
    obtain ⟨hjson, hup⟩ := isName_json hat.isFileName.1.2.2
    have hproper : (p.agentDir a.name).Proper :=
      Path.entry_proper (Path.entry_proper hroot hagents.1) hat.isFileName.1
    have hname := ht.isFileName_of_end? hproper hjson hup hregular
    refine (hlisting.mem_files _).mpr ⟨["agents", a.name], a.name ++ ".json", ?_, hentered,
      agentDir_entry_eq_below _, content, hregular⟩
    simp [hagents, hat.isFileName, hname]

/-- The root agent is told from the listing alone. -/
theorem hasRootAgent_iff :
    p.HasRootAgent t₀ name ↔
      p.agentDir name ∈ p.directories ∧
        (p.agentDir name).entry (name ++ ".json") ∈ p.files :=
  ⟨HasRootAgent.mem hindexed ht hroot, fun h => hasRootAgent_of_mem hindexed ht hroot h.2⟩

end Listing

end Package

namespace Rule

variable {t t₀ : FileTree} {p : Package} {name : String} {path : Path} {line : Option Nat}

/-- A name that could be that of a file is the name of an entry. -/
theorem child_eq_entry (dir : Path) (hname : Path.IsName name) :
    dir.child name = dir.entry name := by
  have hread : Path.ofString ("/".intercalate [name]) = ⟨.relative, [name]⟩ :=
    Path.ofString_intercalate (by simpa using hname) (by simp)
  rw [String.intercalate_singleton] at hread
  rw [Path.child, hread]
  rfl

/-- What is reported about a name that could be that of a file: nothing if it is that of an agent
with a manifest, else one error. -/
theorem namedRootAgent_cases (hindexed : p.Indexed t₀) (ht : t₀.WellFormed) (hroot : p.root.Proper)
    (hrootUp : ".." ∉ p.root.names) (hname : Path.IsName name) (hup : name ≠ "..") (t : FileTree)
    (path : Path) (line : Option Nat) :
    (p.HasRootAgent t₀ name ∧ namedRootAgent t p path line name = nothing) ∨
      (¬ p.HasRootAgent t₀ name ∧ (namedRootAgent t p path line name).OneError) := by
  obtain ⟨hjson, hjsonUp⟩ := isName_json hname.2.2
  -- both questions are answered from the listing
  have hdir : p.hasDirectory t ((p.root.entry "agents").child name) =
      .ok (p.directories.contains (p.agentDir name)) := by
    rw [child_eq_entry _ hname, show (p.root.entry "agents").entry name = p.agentDir name from rfl,
      Package.agentDir_eq_below]
    exact Package.hasDirectory_below hrootUp (by simp [hup.symm]) (by simp)
  have hfile : p.hasFile t (((p.root.entry "agents").child name).child (name ++ ".json")) =
      .ok (p.files.contains ((p.agentDir name).entry (name ++ ".json"))) := by
    rw [child_eq_entry _ hname, child_eq_entry _ hjson,
      show (p.root.entry "agents").entry name = p.agentDir name from rfl,
      Package.agentDir_entry_eq_below]
    exact Package.hasFile_below hrootUp (by simp [hup.symm, hjsonUp.symm])
  rw [Package.hasRootAgent_iff hindexed ht hroot, ← List.contains_iff_mem, ← List.contains_iff_mem]
  unfold namedRootAgent
  dsimp only
  rw [hdir, check, hfile, check]
  cases p.directories.contains (p.agentDir name) with
  | false => exact .inr ⟨by simp, oneError_error⟩
  | true =>
    cases p.files.contains ((p.agentDir name).entry (name ++ ".json")) with
    | false => exact .inr ⟨by simp, oneError_error⟩
    | true => exact .inl ⟨⟨rfl, rfl⟩, rfl⟩

/-- Whatever the name is, one error is reported about it at most. -/
theorem issues_namedRootAgent :
    (namedRootAgent t p path line name).issues = [] ∨
      ∃ i : Issue, (namedRootAgent t p path line name).issues = [i] ∧ i.severity = .error := by
  unfold namedRootAgent
  dsimp only
  cases p.hasDirectory t ((p.root.entry "agents").child name) with
  | error f => exact .inl rfl
  | ok hasDirectory =>
    cases hasDirectory with
    | false => exact .inr ⟨_, rfl, rfl⟩
    | true =>
      rw [check]
      cases p.hasFile t (((p.root.entry "agents").child name).child (name ++ ".json")) with
      | error f => exact .inl rfl
      | ok hasFile =>
        cases hasFile with
        | false => exact .inr ⟨_, rfl, rfl⟩
        | true => exact .inl rfl

/-- What the rule about the root agent reports: an error if the name is blank, unless its value was
dropped, else what there is to say about the name. -/
theorem rootAgent_eq (hindexed : p.Indexed t₀) {m : AppManifest} (hm : p.manifest = some m)
    (t : FileTree) (settings : AuditSettings) :
    ∃ path line, rootAgent.findings t p settings =
      if Text.isAllBlank (m.rootAgent.getD "") then
        when (!p.fieldIssues.any fun i => i.field == "rootAgent") <|
          error "CES_ROOT_AGENT_MISSING" "Manifest must define a non-empty rootAgent" path line
      else namedRootAgent t p path line (m.rootAgent.getD "") := by
  obtain ⟨path, hpath⟩ := hindexed.exists_manifestPath hm
  obtain ⟨line, hline⟩ :=
    exists_lineContaining (hindexed.isNameable_manifestPath hpath) t "rootAgent"
  refine ⟨path, line, ?_⟩
  simp only [rootAgent, hm, hpath, hline, check]

/-- Where all fields of the manifest fit a blank name is reported. -/
theorem exists_rootAgent_eq (hindexed : p.Indexed t₀) {m : AppManifest} (hm : p.manifest = some m)
    (hfit : p.fieldIssues = []) (t : FileTree) (settings : AuditSettings) :
    ∃ path line, rootAgent.findings t p settings =
      if Text.isAllBlank (m.rootAgent.getD "") then
        error "CES_ROOT_AGENT_MISSING" "Manifest must define a non-empty rootAgent" path line
      else namedRootAgent t p path line (m.rootAgent.getD "") := by
  obtain ⟨path, line, hfindings⟩ := rootAgent_eq hindexed hm t settings
  rw [hfit] at hfindings
  exact ⟨path, line, hfindings⟩

/-- The rule about the root agent reports one error at most, where all fields of the manifest fit.
It ends in no failure if the name is blank or could be that of a file, and then reports nothing
exactly if the name is not blank and is that of an agent with a manifest. The package was built from
a tree `t₀`, which may have changed since into `t`. -/
theorem rootAgent_resolved (ht : t₀.WellFormed) {cwd path : Path} (hcwd : cwd.Proper)
    (hpath : path.Proper) (hp : Package.build t₀ cwd path = .ok p) {m : AppManifest}
    (hm : p.manifest = some m) (hfit : p.fieldIssues = []) (t : FileTree)
    (settings : AuditSettings) :
    ((rootAgent.findings t p settings).issues = [] ∨
      ∃ i : Issue, (rootAgent.findings t p settings).issues = [i] ∧ i.severity = .error) ∧
    (Text.isAllBlank (m.rootAgent.getD "") = true ∨
        (Path.IsName (m.rootAgent.getD "") ∧ m.rootAgent.getD "" ≠ "..") →
      (rootAgent.findings t p settings).failure = none ∧
        ((rootAgent.findings t p settings).issues = [] ↔
          Text.isAllBlank (m.rootAgent.getD "") = false ∧
            p.HasRootAgent t₀ (m.rootAgent.getD ""))) := by
  obtain ⟨hindexed, ⟨hroot, -⟩, hrootUp⟩ := Package.indexed_of_build hcwd hpath hp
  obtain ⟨file, line, hfindings⟩ := exists_rootAgent_eq hindexed hm hfit t settings
  rw [hfindings]
  by_cases hblank : Text.isAllBlank (m.rootAgent.getD "") = true
  · rw [if_pos hblank]
    refine ⟨.inr ⟨_, rfl, rfl⟩, fun _ => ⟨rfl, iff_of_false (List.cons_ne_nil _ _) ?_⟩⟩
    rw [hblank]
    exact fun h => Bool.noConfusion h.1
  · rw [if_neg hblank]
    refine ⟨issues_namedRootAgent, fun hname => ?_⟩
    obtain ⟨hname, hup⟩ := hname.resolve_left hblank
    rw [Bool.not_eq_true] at hblank
    rcases namedRootAgent_cases hindexed ht hroot hrootUp hname hup t file line with
      ⟨hhas, hnothing⟩ | ⟨hnot, i, -, hone⟩
    · rw [hnothing]
      exact ⟨rfl, iff_of_true rfl ⟨hblank, hhas⟩⟩
    · rw [hone]
      exact ⟨rfl, iff_of_false (List.cons_ne_nil _ _) fun h => hnot h.2⟩

section Desks

/-- A package whose root agent is one of its agents. -/
def staffed : FileTree :=
  ⟨[(["p"], .directory), (["p", "app.json"], .file "\x7b\"rootAgent\":\"desk\"\x7d".toUTF8),
    (["p", "agents"], .directory), (["p", "agents", "desk"], .directory),
    (["p", "agents", "desk", "desk.json"], .file "\x7b\x7d".toUTF8)]⟩

/-- A package whose folder for agents is the package itself, and whose root agent is in it. -/
def staffedInside : FileTree :=
  ⟨[(["p"], .directory), (["p", "app.json"], .file "\x7b\"rootAgent\":\"desk\"\x7d".toUTF8),
    (["p", "agents"], .link "."), (["p", "desk"], .directory),
    (["p", "desk", "desk.json"], .file "\x7b\x7d".toUTF8)]⟩

/-- A package whose root agent has a blank for its name. -/
def staffedBlank : FileTree :=
  ⟨[(["p"], .directory), (["p", "app.json"], .file "\x7b\"rootAgent\":\" \"\x7d".toUTF8),
    (["p", "agents"], .directory), (["p", "agents", " "], .directory),
    (["p", "agents", " ", " .json"], .file "\x7b\x7d".toUTF8)]⟩

/-- A package whose root agent is looked for beside the folder for agents. -/
def staffedBeside : FileTree :=
  ⟨[(["p"], .directory), (["p", "app.json"], .file "\x7b\"rootAgent\":\"../desk\"\x7d".toUTF8),
    (["p", "desk"], .directory), (["p", "desk.json"], .file "\x7b\x7d".toUTF8)]⟩

/-- The root of the packages. -/
def staffedRoot : Path :=
  ⟨.root, ["p"]⟩

set_option maxRecDepth 10000 in
/-- The root agent of the first package has its manifest. -/
theorem rootAgent_resolved_staffed :
    ∃ p m, Package.build staffed staffedRoot staffedRoot = .ok p ∧ p.manifest = some m ∧
      p.fieldIssues = [] ∧ m.rootAgent = some "desk" ∧
      (rootAgent.findings staffed p {}).failure = none ∧
        ((rootAgent.findings staffed p {}).issues = [] ↔
          Text.isAllBlank (m.rootAgent.getD "") = false ∧
            p.HasRootAgent staffed (m.rootAgent.getD "")) ∧
      p.HasRootAgent staffed "desk" := by
  have ht : staffed.WellFormed := by decide +kernel
  have hroot : staffedRoot.Proper := by decide
  obtain ⟨p, hp, hfit, hname, hissues⟩ : ∃ p,
      Package.build staffed staffedRoot staffedRoot = .ok p ∧ p.fieldIssues = [] ∧
        p.manifest.bind AppManifest.rootAgent = some "desk" ∧
        (rootAgent.findings staffed p {}).issues = [] := by
    decide +kernel
  obtain ⟨m, hm, hname⟩ := Option.bind_eq_some_iff.mp hname
  have hresolved := (rootAgent_resolved ht hroot hroot hp hm hfit staffed {}).2
    (.inr (by rw [hname]; decide))
  refine ⟨p, m, hp, hm, hfit, hname, hresolved.1, hresolved.2, ?_⟩
  rw [hname] at hresolved
  exact (hresolved.2.mp hissues).2

set_option maxRecDepth 10000 in
/-- Where the folder for agents is the root itself, or the name is blank, an error is reported about
an agent with a manifest. -/
theorem rootAgent_not_exact :
    (∃ p, Package.build staffedInside staffedRoot staffedRoot = .ok p ∧ p.fieldIssues = [] ∧
      p.manifest.bind AppManifest.rootAgent = some "desk" ∧
      (∃ a ∈ p.agents, a.name = "desk" ∧
        realPlace staffedInside a.dir ≠ realPlace staffedInside p.root ∧
        realPlace staffedInside a.dir ≠ realPlace staffedInside (p.root.entry "agents") ∧
        staffedInside.isFile a.manifestPath = .ok true) ∧
      (rootAgent.findings staffedInside p {}).issues.map Issue.code =
        ["CES_ROOT_AGENT_DIR_MISSING"]) ∧
    ∃ p, Package.build staffedBlank staffedRoot staffedRoot = .ok p ∧ p.fieldIssues = [] ∧
      p.manifest.bind AppManifest.rootAgent = some " " ∧ p.HasRootAgent staffedBlank " " ∧
      (rootAgent.findings staffedBlank p {}).issues.map Issue.code =
        ["CES_ROOT_AGENT_MISSING"] := by
  unfold Package.HasRootAgent
  decide +kernel

set_option maxRecDepth 10000 in
/-- Nothing is reported about a name that leads to a directory beside the folder for agents. -/
theorem rootAgent_beside :
    ∃ p, Package.build staffedBeside staffedRoot staffedRoot = .ok p ∧ p.fieldIssues = [] ∧
      p.manifest.bind AppManifest.rootAgent = some "../desk" ∧ p.agents.map Entity.name = [] ∧
      (rootAgent.findings staffedBeside p {}).failure = none ∧
      (rootAgent.findings staffedBeside p {}).issues.map Issue.code = [] := by
  decide +kernel

end Desks

end Rule

end AgentPackage
