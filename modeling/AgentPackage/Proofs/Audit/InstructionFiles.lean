import AgentPackage.Audit.Rules.Agents
import AgentPackage.Proofs.Audit.Codes
import AgentPackage.Proofs.Document
import AgentPackage.Proofs.Package.Agents
import AgentPackage.Proofs.Package.Declared

/-!
# Instructions of agents

The rule about agents reports an instruction as missing if nothing stands at its path, neither a
file nor a directory. Where it reports nothing about an agent the instruction is declared in the
directory of the agent, and was read there when the package was indexed, unless a directory stands
at its path.

## Main definitions

* `Entity.DeclaresInstruction`: the manifest of an agent declares an instruction;
* `Rule.canonicalInstruction`: the path at which the instruction of an agent is expected.

## Main results

* `Rule.failure_agentFindings_iff`: the rule goes on if it can be told what stands at the path;
* `Rule.missing_agentFindings_iff`: what is reported as missing;
* `Rule.instruction_of_canonical`: the instruction that is read in the directory of an agent;
* `Rule.instructions_checked`: what the rule reports about the instructions of a package.
-/

namespace AgentPackage

open Findings Index FileTree

/-- The manifest of the agent was loaded and declares an instruction that is not blank. -/
def Entity.DeclaresInstruction (a : Entity AgentManifest) (text : String) : Prop :=
  ∃ m, a.manifest = some m ∧ m.instruction = some text ∧ Text.isAllBlank text = false

namespace Package

variable {t : FileTree} {p : Package} {path : Path}

/-- Nothing stands at a path if there is neither a file nor a directory. -/
theorem pathExists_eq_ok_false_iff :
    p.pathExists t path = .ok false ↔
      p.hasFile t path = .ok false ∧ p.hasDirectory t path = .ok false := by
  unfold pathExists
  cases p.hasFile t path with
  | error f => simp [bind, Except.bind]
  | ok b => cases b <;> simp [bind, Except.bind, pure, Except.pure]

/-- Something stands at a path if there is a file, or else a directory. -/
theorem pathExists_eq_ok_true_iff :
    p.pathExists t path = .ok true ↔
      p.hasFile t path = .ok true ∨
        (p.hasFile t path = .ok false ∧ p.hasDirectory t path = .ok true) := by
  unfold pathExists
  cases p.hasFile t path with
  | error f => simp [bind, Except.bind]
  | ok b => cases b <;> simp [bind, Except.bind, pure, Except.pure]

end Package

namespace Rule

variable {t : FileTree} {p : Package} {a : Entity AgentManifest} {m : AgentManifest}
  {text : String}

/-- The path at which the instruction of an agent is expected. -/
def canonicalInstruction (name : String) : String :=
  "agents/" ++ name ++ "/instruction.txt"

/-- What is found where the declared instruction is not the expected one. -/
def pathMismatch (a : Entity AgentManifest) (line : Option Nat) : Findings :=
  error "CES_AGENT_INSTRUCTION_PATH_MISMATCH"
    ("Agent '" ++ a.name ++ "' instruction should be '" ++ canonicalInstruction a.name ++ "'")
    a.manifestPath line

/-- What is found where the declared instruction is not there. -/
def fileMissing (a : Entity AgentManifest) (text : String) (line : Option Nat) : Findings :=
  error "CES_AGENT_INSTRUCTION_FILE_MISSING"
    ("Instruction file does not exist: " ++ Declared.withSlashes (Text.trim text))
    a.manifestPath line

section Agent

variable (hname : isNameable a.manifestPath = true)

include hname

/-- The findings about a declared instruction: whether it is the expected one, and whether something
stands at its path. -/
theorem agentInstruction_eq (htext : m.instruction = some text)
    (hblank : Text.isAllBlank text = false) :
    ∃ line, agentInstruction t p a m =
      when (Declared.withSlashes (Text.trim text) != canonicalInstruction a.name)
        (pathMismatch a line) ++
      check (p.pathExists t (Declared.resolve p.root text)) fun pathExists =>
        when (!pathExists) (fileMissing a text line) := by
  obtain ⟨line, hline⟩ := exists_lineContaining hname t "instruction"
  refine ⟨line, ?_⟩
  rw [agentInstruction, hline, htext, check, Option.getD_some]
  dsimp only
  rw [hblank, if_neg Bool.false_ne_true, Declared.resolve_withSlashes_trim]
  rfl

/-- The findings about the instruction of an agent end in no failure exactly if it can be told what
stands at its path. -/
theorem failure_agentInstruction_iff :
    (agentInstruction t p a m).failure = none ↔
      ∀ text, m.instruction = some text → Text.isAllBlank text = false →
        ∃ b, p.pathExists t (Declared.resolve p.root text) = .ok b := by
  constructor
  · intro h text htext hblank
    obtain ⟨line, heq⟩ := agentInstruction_eq (t := t) (p := p) hname htext hblank
    rw [heq] at h
    obtain ⟨b, hb, -⟩ := failure_check_eq_none.mp (failure_append_eq_none.mp h).2
    exact ⟨b, hb⟩
  · intro h
    by_cases hblank : Text.isAllBlank (m.instruction.getD "") = true
    · -- nothing is asked for without an instruction
      obtain ⟨line, hline⟩ := exists_lineContaining hname t "instruction"
      rw [agentInstruction, hline, check]
      dsimp only
      rw [if_pos hblank]
      exact failure_when rfl
    · rw [Bool.not_eq_true] at hblank
      cases htext : m.instruction with
      | none =>
        rw [htext] at hblank
        exact absurd hblank (by decide)
      | some text =>
        rw [htext, Option.getD_some] at hblank
        obtain ⟨line, heq⟩ := agentInstruction_eq (t := t) (p := p) hname htext hblank
        obtain ⟨b, hb⟩ := h text htext hblank
        rw [heq]
        exact failure_append_eq_none.mpr ⟨failure_when rfl,
          failure_check_eq_none.mpr ⟨b, hb, failure_when rfl⟩⟩

/-- A declared instruction is reported as missing exactly if nothing stands at its path. -/
theorem missing_agentInstruction_iff (htext : m.instruction = some text)
    (hblank : Text.isAllBlank text = false) :
    (∃ i ∈ (agentInstruction t p a m).issues, i.code = "CES_AGENT_INSTRUCTION_FILE_MISSING") ↔
      p.pathExists t (Declared.resolve p.root text) = .ok false := by
  obtain ⟨line, heq⟩ := agentInstruction_eq (t := t) (p := p) hname htext hblank
  have hmismatch : (when (Declared.withSlashes (Text.trim text) != canonicalInstruction a.name)
      (pathMismatch a line)).Only fun i => i.code ≠ "CES_AGENT_INSTRUCTION_FILE_MISSING" :=
    only_when (only_error (by simp))
  simp only [heq, mem_issues_append]
  constructor
  · rintro ⟨i, hi | ⟨-, hi⟩, hcode⟩
    · exact absurd hcode (hmismatch i hi)
    · cases hexists : p.pathExists t (Declared.resolve p.root text) with
      | error f =>
        rw [hexists] at hi
        cases hi
      | ok b =>
        rw [hexists] at hi
        cases b with
        | true => cases hi
        | false => rfl
  · intro hexists
    rw [hexists]
    exact ⟨_, .inr ⟨failure_when rfl, List.mem_cons_self⟩, rfl⟩

section Loaded

variable (hm : a.manifest = some m) (herror : a.error = none)

omit hname in
include hm herror in
/-- The findings about an agent with a manifest. -/
theorem agentFindings_eq :
    agentFindings t p a =
      fieldErrors t "CES_AGENT_FIELD_INVALID" ("Agent '" ++ a.name ++ "'") a.manifestPath
        a.fieldIssues ++
      agentInstruction t p a m ++ childAgents t p a m ++ agentToolsets t p a m := by
  rw [agentFindings, herror, hm]
  exact nothing_append _

include hm herror

/-- The findings about an agent end in no failure exactly if it can be told what stands at the path
of its instruction. -/
theorem failure_agentFindings_iff :
    (agentFindings t p a).failure = none ↔
      ∀ text, a.DeclaresInstruction text →
        ∃ b, p.pathExists t (Declared.resolve p.root text) = .ok b := by
  have hchildren : (childAgents t p a m).failure = none :=
    failure_all_eq_none.mpr fun _ _ => failure_when (failure_errorAt hname)
  have htoolsets : (agentToolsets t p a m).failure = none :=
    failure_all_eq_none.mpr fun _ _ => failure_when (failure_errorAt hname)
  have hinstruction := failure_agentInstruction_iff (t := t) (p := p) (m := m) hname
  rw [agentFindings_eq hm herror, failure_append_eq_none, failure_append_eq_none,
    failure_append_eq_none, hinstruction]
  simp only [failure_fieldErrors hname, hchildren, htoolsets, true_and, and_true]
  constructor
  · rintro h text ⟨m', hm', htext, hblank⟩
    cases hm.symm.trans hm'
    exact h text htext hblank
  · exact fun h text htext hblank => h text ⟨m, hm, htext, hblank⟩

/-- The declared instruction of an agent is reported as missing exactly if nothing stands at its
path. -/
theorem missing_agentFindings_iff (htext : m.instruction = some text)
    (hblank : Text.isAllBlank text = false) :
    (∃ i ∈ (agentFindings t p a).issues, i.code = "CES_AGENT_INSTRUCTION_FILE_MISSING") ↔
      p.pathExists t (Declared.resolve p.root text) = .ok false := by
  rw [← missing_agentInstruction_iff hname htext hblank, agentFindings_eq hm herror]
  -- the issues about fields, children and toolsets have other codes
  have hfields : (fieldErrors t "CES_AGENT_FIELD_INVALID" ("Agent '" ++ a.name ++ "'")
      a.manifestPath a.fieldIssues).Only fun i =>
        i.code ≠ "CES_AGENT_INSTRUCTION_FILE_MISSING" :=
    only_fieldErrors fun _ _ => by simp
  have hchildren : (childAgents t p a m).Only fun i =>
      i.code ≠ "CES_AGENT_INSTRUCTION_FILE_MISSING" :=
    only_all fun _ _ => only_when (only_errorAt fun _ => by simp)
  have htoolsets : (agentToolsets t p a m).Only fun i =>
      i.code ≠ "CES_AGENT_INSTRUCTION_FILE_MISSING" :=
    only_all fun _ _ => only_when (only_errorAt fun _ => by simp)
  simp only [mem_issues_append]
  constructor
  · rintro ⟨i, ((hi | ⟨-, hi⟩) | ⟨-, hi⟩) | ⟨-, hi⟩, hcode⟩
    · exact absurd hcode (hfields i hi)
    · exact ⟨i, hi, hcode⟩
    · exact absurd hcode (hchildren i hi)
    · exact absurd hcode (htoolsets i hi)
  · rintro ⟨i, hi, hcode⟩
    exact ⟨i, .inl (.inl (.inr ⟨failure_fieldErrors hname, hi⟩)), hcode⟩

/-- An agent about which nothing is reported declares its instruction where it is expected, and
something stands there. -/
theorem canonical_of_no_issues (htext : m.instruction = some text)
    (hblank : Text.isAllBlank text = false) (h : (agentFindings t p a).issues = [])
    (hfailure : (agentFindings t p a).failure = none) :
    Declared.withSlashes (Text.trim text) = canonicalInstruction a.name ∧
      p.pathExists t (Declared.resolve p.root text) = .ok true := by
  constructor
  · by_contra hother
    obtain ⟨line, heq⟩ := agentInstruction_eq (t := t) (p := p) hname htext hblank
    -- that it is declared elsewhere would be reported
    have hdiffers : (Declared.withSlashes (Text.trim text) != canonicalInstruction a.name) =
        true := by simpa using hother
    have hmem : ⟨"CES_AGENT_INSTRUCTION_PATH_MISMATCH", "Agent '" ++ a.name ++
        "' instruction should be '" ++ canonicalInstruction a.name ++ "'", .error,
        a.manifestPath.text, line.map Int.ofNat⟩ ∈ (agentFindings t p a).issues := by
      rw [agentFindings_eq hm herror, heq, hdiffers]
      simp only [mem_issues_append]
      exact .inl (.inl (.inr ⟨failure_fieldErrors hname, .inl List.mem_cons_self⟩))
    rw [h] at hmem
    cases hmem
  · obtain ⟨b, hb⟩ := (failure_agentFindings_iff hname hm herror).mp hfailure text
      ⟨m, hm, htext, hblank⟩
    cases b with
    | true => exact hb
    | false =>
      obtain ⟨i, hi, -⟩ := (missing_agentFindings_iff hname hm herror htext hblank).mpr hb
      rw [h] at hi
      cases hi

end Loaded

end Agent

section Package

variable {t₀ : FileTree}

/-- Where an agent declares its instruction at the expected path, the instruction is the one that is
read in its directory, unless a directory stands there. -/
theorem instruction_of_canonical (hindexed : p.Indexed t₀) (ht : t₀.WellFormed)
    (hroot : p.root.Proper) (hup : ".." ∉ p.root.names) (ha : a ∈ p.agents)
    (htext : Declared.withSlashes (Text.trim text) = canonicalInstruction a.name)
    (hexists : p.pathExists t (Declared.resolve p.root text) = .ok true) :
    (∃ i ∈ p.instructions,
      Markup.parseFile t₀ a.name (a.dir.entry instructionName) = .ok i) ∨
      (p.hasFile t (Declared.resolve p.root text) = .ok false ∧
        p.hasDirectory t (Declared.resolve p.root text) = .ok true) := by
  have hat := hindexed.agentAt ht hroot ha
  obtain ⟨hname, hnotUp, -⟩ := hat.isFileName
  -- the expected path leads to the instruction in the directory of the agent
  have hnames : ∀ n ∈ ["agents", a.name] ++ [instructionName], Path.IsName n := by
    simp only [List.cons_append, List.nil_append, List.forall_mem_cons]
    exact ⟨by decide, hname, by decide, List.forall_mem_nil _⟩
  have hnamesUp : ".." ∉ ["agents", a.name] ++ [instructionName] := by
    simp [instructionName, hnotUp.symm]
  have hcanonical : canonicalInstruction a.name =
      "/".intercalate (["agents", a.name] ++ [instructionName]) := by
    simp [canonicalInstruction, instructionName, String.append_assoc]
  have hplace : Declared.resolve p.root text =
      below p.root (["agents", a.name] ++ [instructionName]) :=
    Declared.resolve_eq_below hup (htext.trans hcanonical) hnames hnamesUp (by simp)
  rcases Package.pathExists_eq_ok_true_iff.mp hexists with hfile | hdirectory
  · -- what the listing holds as a file is one, so it was read
    rw [hplace, Package.hasFile_below hup hnamesUp, Except.ok.injEq,
      List.contains_iff_mem] at hfile
    obtain ⟨_, _, -, -, -, content, hend⟩ :=
      ((isListing_of_eq_ok ht hroot hindexed.listing).mem_files _).mp hfile
    rw [← Package.agentDir_entry_eq_below, ← hat.dir] at hend
    exact .inl (hindexed.exists_instruction ht ha hend)
  · exact .inr hdirectory

/-- An issue about the manifest of an agent was found about that agent. -/
theorem mem_issues_about (hindexed : p.Indexed t₀) (ht : t₀.WellFormed) (hroot : p.root.Proper)
    (habsolute : p.root.isAbsolute = true) (ha : a ∈ p.agents) {settings : AuditSettings}
    (h : (agents.findings t p settings).failure = none) {i : Issue} :
    (i ∈ (agents.findings t p settings).issues ∧ i.file = a.manifestPath.text) ↔
      i ∈ (agentFindings t p a).issues := by
  have hissues : (agents.findings t p settings).issues =
      p.agents.flatMap fun b => (agentFindings t p b).issues := issues_all h
  rw [hissues, List.mem_flatMap]
  constructor
  · rintro ⟨⟨b, hb, hi⟩, hfile⟩
    -- the paths of manifests are told apart by their texts
    have hproper : ∀ c ∈ p.agents, c.manifestPath.Proper ∧ c.manifestPath.isAbsolute = true :=
      fun c hc => hindexed.agent_proper ht.proper hroot habsolute hc
    have hpath : b.manifestPath = a.manifestPath :=
      Path.text_injective (hproper b hb).1 (hproper a ha).1 (hproper b hb).2 (hproper a ha).2
        ((agentFindings_only i hi).2.symm.trans hfile)
    rwa [← hindexed.agent_eq ht hroot hb ha hpath]
  · exact fun hi => ⟨⟨a, ha, hi⟩, (agentFindings_only i hi).2⟩

/-- Without a manifest the findings about an agent end in no failure. -/
theorem failure_agentFindings_of_none (hm : a.manifest = none) :
    (agentFindings t p a).failure = none := by
  rw [agentFindings, hm]
  cases a.error <;> rfl

/-- What the rule about agents reports about the instructions of a package. It goes on exactly if it
can be told what stands at each declared path. An instruction is then reported as missing exactly if
neither a file nor a directory stands at its path, and an agent about which nothing is reported has
its instruction among those of the package, unless a directory stands at its path. The package was
built from a tree `t₀`, which may have changed since into `t`. -/
theorem instructions_checked (ht : t₀.WellFormed) {cwd path : Path} (hcwd : cwd.Proper)
    (hpath : path.Proper) (hp : Package.build t₀ cwd path = .ok p) (t : FileTree)
    (settings : AuditSettings) :
    ((agents.findings t p settings).failure = none ↔
      ∀ a ∈ p.agents, ∀ text, a.DeclaresInstruction text →
        ∃ b, p.pathExists t (Declared.resolve p.root text) = .ok b) ∧
    ((agents.findings t p settings).failure = none →
      ∀ a ∈ p.agents, ∀ text, a.DeclaresInstruction text →
        ((∃ i ∈ (agents.findings t p settings).issues,
            i.code = "CES_AGENT_INSTRUCTION_FILE_MISSING" ∧ i.file = a.manifestPath.text) ↔
          p.hasFile t (Declared.resolve p.root text) = .ok false ∧
            p.hasDirectory t (Declared.resolve p.root text) = .ok false) ∧
        ((∀ i ∈ (agents.findings t p settings).issues, i.file ≠ a.manifestPath.text) →
          Declared.withSlashes (Text.trim text) = canonicalInstruction a.name ∧
            ((∃ i ∈ p.instructions,
              Markup.parseFile t₀ a.name (a.dir.entry instructionName) = .ok i) ∨
              (p.hasFile t (Declared.resolve p.root text) = .ok false ∧
                p.hasDirectory t (Declared.resolve p.root text) = .ok true)))) := by
  obtain ⟨hindexed, ⟨hroot, habsolute⟩, hup⟩ := Package.indexed_of_build hcwd hpath hp
  -- a manifest was read from its file, which has a name
  have hloaded : ∀ a ∈ p.agents, ∀ m, a.manifest = some m →
      a.error = none ∧ isNameable a.manifestPath = true := by
    intro a ha m hm
    obtain ⟨herror, _, _, _, hread, -⟩ :=
      loaded_of_manifest (hindexed.agentAt ht hroot ha).loads hm
    exact ⟨herror, Document.isNameable_of_read hread⟩
  constructor
  · show (all p.agents (agentFindings t p)).failure = none ↔ _
    rw [failure_all_eq_none]
    refine forall_congr' fun a => forall_congr' fun ha => ?_
    cases hm : a.manifest with
    | none =>
      refine iff_of_true (failure_agentFindings_of_none hm) fun text ⟨m, hsome, _⟩ => ?_
      cases hm.symm.trans hsome
    | some m =>
      obtain ⟨herror, hname⟩ := hloaded a ha m hm
      exact failure_agentFindings_iff hname hm herror
  · rintro h a ha text ⟨m, hm, htext, hblank⟩
    obtain ⟨herror, hname⟩ := hloaded a ha m hm
    have habout : ∀ i, (i ∈ (agents.findings t p settings).issues ∧
        i.file = a.manifestPath.text) ↔ i ∈ (agentFindings t p a).issues := fun i =>
      mem_issues_about hindexed ht hroot habsolute ha h
    constructor
    · rw [← Package.pathExists_eq_ok_false_iff,
        ← missing_agentFindings_iff hname hm herror htext hblank]
      refine exists_congr fun i => ?_
      rw [← habout i]
      tauto
    · intro hnone
      have hissues : (agentFindings t p a).issues = [] := by
        rw [List.eq_nil_iff_forall_not_mem]
        exact fun i hi => hnone i ((habout i).mpr hi).1 ((habout i).mpr hi).2
      obtain ⟨hcanonical, hexists⟩ := canonical_of_no_issues hname hm herror htext hblank hissues
        (failure_all_eq_none.mp h a ha)
      exact ⟨hcanonical, instruction_of_canonical hindexed ht hroot hup ha hcanonical hexists⟩

section Vacant

/-- A package with an agent whose instruction is a file, one whose instruction is a directory and
one whose instruction is not there. -/
def vacant : FileTree :=
  ⟨[(["p"], .directory), (["p", "agents"], .directory), (["p", "agents", "back"], .directory),
    (["p", "agents", "back", "back.json"],
      .file "\x7b\"instruction\":\" agents\\\\back/instruction.txt\"\x7d".toUTF8),
    (["p", "agents", "back", "instruction.txt"], .file "<role>\n</role>\n".toUTF8),
    (["p", "agents", "desk"], .directory),
    (["p", "agents", "desk", "desk.json"],
      .file "\x7b\"instruction\":\"agents/desk/instruction.txt\"\x7d".toUTF8),
    (["p", "agents", "desk", "instruction.txt"], .directory),
    (["p", "agents", "lost"], .directory),
    (["p", "agents", "lost", "lost.json"],
      .file "\x7b\"instruction\":\"agents/lost/instruction.txt\"\x7d".toUTF8)]⟩

/-- The root of the package. -/
def vacantRoot : Path :=
  ⟨.root, ["p"]⟩

set_option maxRecDepth 10000 in
/-- In the package one instruction is reported as missing. -/
theorem instructions_checked_vacant :
    vacant.WellFormed ∧ vacantRoot.Proper ∧
      ∃ p, Package.build vacant vacantRoot vacantRoot = .ok p ∧
        (agents.findings vacant p {}).failure = none ∧
        (agents.findings vacant p {}).issues.map (fun i => (i.code, i.file)) =
          [("CES_AGENT_INSTRUCTION_FILE_MISSING", "/p/agents/lost/lost.json")] ∧
        ∀ a ∈ p.agents, ∀ text, a.DeclaresInstruction text →
          (∀ i ∈ (agents.findings vacant p {}).issues, i.file ≠ a.manifestPath.text) →
            (∃ i ∈ p.instructions,
              Markup.parseFile vacant a.name (a.dir.entry instructionName) = .ok i) ∨
              (p.hasFile vacant (Declared.resolve p.root text) = .ok false ∧
                p.hasDirectory vacant (Declared.resolve p.root text) = .ok true) := by
  have ht : vacant.WellFormed := by decide +kernel
  have hroot : vacantRoot.Proper := by decide
  obtain ⟨p, hp, hfailure, hissues⟩ : ∃ p, Package.build vacant vacantRoot vacantRoot = .ok p ∧
      (agents.findings vacant p {}).failure = none ∧
      (agents.findings vacant p {}).issues.map (fun i => (i.code, i.file)) =
        [("CES_AGENT_INSTRUCTION_FILE_MISSING", "/p/agents/lost/lost.json")] := by
    decide +kernel
  have hchecked := (instructions_checked ht hroot hroot hp vacant {}).2 hfailure
  exact ⟨ht, hroot, p, hp, hfailure, hissues, fun a ha text htext hnone =>
    ((hchecked a ha text htext).2 hnone).2⟩

set_option maxRecDepth 10000 in
/-- Nothing is reported about the agent whose instruction is a directory, although its instruction
was not read. -/
theorem instruction_directory_not_reported :
    ∃ p, Package.build vacant vacantRoot vacantRoot = .ok p ∧
      p.instructions.map Instruction.agentName = ["back"] ∧
      ∃ a ∈ p.agents, a.name = "desk" ∧ a.manifest.isSome = true ∧
        p.hasFile vacant (a.dir.entry instructionName) = .ok false ∧
        (agentFindings vacant p a).failure = none ∧ (agentFindings vacant p a).issues = [] := by
  decide +kernel

end Vacant

end Package

end Rule

end AgentPackage
