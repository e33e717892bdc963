import AgentPackage.Proofs.Audit.Codes
import AgentPackage.Proofs.Instruction.Pairing
import AgentPackage.Proofs.Instruction.References
import AgentPackage.Proofs.Package.Agents

/-!
# Checked instructions

The rule about instructions checks the file of each agent: sections that are not closed, and each
reference to an agent that is not there. The global instruction of a package is exempt. It is told
by the name under which it stands, which a directory may have as well: the instruction of an agent
with that name is not checked either.

## Main definitions

* `Rule.unknownAgent`: the issue about a reference to an agent that is not there;
* `Rule.ChecksInstruction`: some issues tell what is wrong with a text.

## Main results

* `Rule.filter_unknownAgents`: the references that are reported, each once;
* `Rule.checksInstruction_parse`: the issues about the instruction that a text is read as;
* `Rule.instructions_check`: what the rule reports about the instruction of each agent;
* `Rule.reserved_name_not_checked`: the agent whose instruction is not checked.
-/

namespace AgentPackage

open Findings FileTree Index

namespace Rule

variable {t : FileTree} {p : Package} {i : Instruction}

/-- The issue about a reference to an agent that is not there. -/
def unknownAgent (agentName : String) (path : Path) (name : String) (line : ℕ) : Issue where
  code := "CES_INSTRUCTION_AGENT_REF_UNKNOWN"
  message := "Instruction for '" ++ agentName ++ "'" ++ " references unknown agent '" ++ name ++
    "' at line " ++ toString line
  severity := .error
  file := path.text
  line := some (Int.ofNat line)

/-- Some issues tell what is wrong with the text of an instruction: whether all sections are closed,
and in each line the references to agents that are not there. -/
structure ChecksInstruction (p : Package) (agentName : String) (path : Path) (text : List Char)
    (issues : List Issue) : Prop where
  /-- A section is reported as open if the opening tags have no closing tags for partners. -/
  parseError : (∃ i ∈ issues, i.code = "CES_INSTRUCTION_PARSE_ERROR") ↔
    ¬ ∃ partner, Markup.Pairs text (Markup.ClosesFirstAt text) partner
  /-- The references of a line to agents that are not there are reported one by one. -/
  unknownAgents : ∀ l line names, (l, line) ∈ (Text.lines text).zipIdx 1 →
    Markup.Refers .agent l names →
      issues.filter (fun i => i.line == some (Int.ofNat line) &&
          i.code == "CES_INSTRUCTION_AGENT_REF_UNKNOWN") =
        (names.filter fun name => !p.agentNames.contains name).map fun name =>
          unknownAgent agentName path name line
  /-- No other line is named. -/
  lines : ∀ i ∈ issues, i.code = "CES_INSTRUCTION_AGENT_REF_UNKNOWN" →
    ∃ l line, (l, line) ∈ (Text.lines text).zipIdx 1 ∧ i.line = some (Int.ofNat line)

section Parts

/-- The codes of issues about calls. -/
def callCodes : List String :=
  ["CES_INSTRUCTION_TOOLCALL_UNKNOWN_TOOLSET", "CES_INSTRUCTION_TOOLCALL_UNKNOWN_TOOL"]

/-- The findings about a call do not fail. They are about the file of the instruction. -/
theorem instructionCall_about (call : ToolCall) :
    (instructionCall p i call).failure = none ∧
      (instructionCall p i call).Only fun x => x.file = i.path.text ∧ x.HasCode callCodes := by
  unfold instructionCall
  split <;> exact ⟨failure_when rfl, only_when (only_warning ⟨rfl, by simp [Issue.HasCode, callCodes]⟩)⟩

theorem failure_instructionSections : (instructionSections i).failure = none := by
  refine failure_append_eq_none.mpr ⟨?_, failure_all_eq_none.mpr fun _ _ => failure_when rfl⟩
  cases i.parseError? <;> rfl

/-- The findings about the references of an instruction: to agents that are not there, and to tools
that are not there. -/
theorem instructionReferences_eq :
    ∃ tools : Findings, tools.failure = none ∧
      (tools.Only fun x => x.file = i.path.text ∧ x.code = "CES_INSTRUCTION_TOOL_REF_UNKNOWN") ∧
      instructionReferences p i =
        { issues := ((i.referencesOf .agent).filter fun r => !p.agentNames.contains r.name).map
            fun r => unknownAgent i.agentName i.path r.name r.line } ++ tools := by
  refine ⟨_, ?_, ?_, congrArg (· ++ _) all_when_one⟩
  · exact failure_all_eq_none.mpr fun _ _ => failure_when rfl
  · exact only_all fun _ _ => only_when (only_warning ⟨rfl, rfl⟩)

/-- The findings about an instruction do not fail, and they are about its file. -/
theorem instructionFindings_about :
    (instructionFindings p i).failure = none ∧
      (instructionFindings p i).Only fun x => x.file = i.path.text := by
  obtain ⟨tools, htools, htoolsFile, hreferences⟩ := instructionReferences_eq (p := p) (i := i)
  constructor
  · refine failure_when (failure_append_eq_none.mpr ⟨failure_append_eq_none.mpr
      ⟨failure_instructionSections, ?_⟩, failure_all_eq_none.mpr fun call _ =>
        (instructionCall_about call).1⟩)
    rw [hreferences]
    exact failure_append_eq_none.mpr ⟨rfl, htools⟩
  · refine only_when (only_append (only_append (only_append ?_ ?_) ?_) ?_)
    · split
      · exact only_error rfl
      · exact only_nothing
    · exact only_all fun _ _ => only_when (only_warning rfl)
    · rw [hreferences]
      refine only_append (fun x hx => ?_) (htoolsFile.mono fun x hx => hx.1)
      obtain ⟨r, -, rfl⟩ := List.mem_map.mp hx
      rfl
    · exact only_all fun call _ => (instructionCall_about call).2.mono fun x hx => hx.1

variable (hglobal : i.isGlobal = false)

include hglobal

/-- What is found about an instruction that is not the global one, part by part. -/
theorem instructionFindings_eq :
    instructionFindings p i = instructionSections i ++
      (instructionReferences p i ++ all i.toolCalls (instructionCall p i)) := by
  rw [instructionFindings, hglobal, ← Findings.append_assoc]
  rfl

/-- Unless it is the global one, an instruction is reported for its sections exactly if it has an
error. -/
theorem parseError_instructionFindings_iff :
    (∃ x ∈ (instructionFindings p i).issues, x.code = "CES_INSTRUCTION_PARSE_ERROR") ↔
      i.parseError? ≠ none := by
  rw [instructionFindings_eq hglobal]
  constructor
  · rintro ⟨x, hx, hcode⟩ hnone
    -- without an error there are issues of other codes only
    have hother : (instructionSections i ++ (instructionReferences p i ++
        all i.toolCalls (instructionCall p i))).Only fun x =>
          x.code ≠ "CES_INSTRUCTION_PARSE_ERROR" := by
      refine only_append (only_append ?_ ?_) (only_append (only_append ?_ ?_) ?_)
      · rw [hnone]
        exact only_nothing
      · exact only_all fun _ _ => only_when (only_warning (by simp))
      · exact only_all fun _ _ => only_when (only_error (by simp))
      · exact only_all fun _ _ => only_when (only_warning (by simp))
      · refine only_all fun call _ => (instructionCall_about call).2.mono fun x hx heq => ?_
        simp [Issue.HasCode, heq, callCodes] at hx
    exact hother x hx hcode
  · intro hsome
    obtain ⟨reason, hreason⟩ := Option.ne_none_iff_exists'.mp hsome
    simp only [mem_issues_append, instructionSections, hreason]
    exact ⟨_, .inl (.inl List.mem_cons_self), rfl⟩

/-- Unless it is the global one, the references of an instruction to agents that are not there are
reported, each once and in order. -/
theorem filter_unknownAgents :
    (instructionFindings p i).issues.filter
        (fun x => x.code == "CES_INSTRUCTION_AGENT_REF_UNKNOWN") =
      ((i.referencesOf .agent).filter fun r => !p.agentNames.contains r.name).map fun r =>
        unknownAgent i.agentName i.path r.name r.line := by
  obtain ⟨tools, htools, htoolsCode, hreferences⟩ := instructionReferences_eq (p := p) (i := i)
  -- the issues of the other parts have other codes
  have hsections : (instructionSections i).issues.filter
      (fun x => x.code == "CES_INSTRUCTION_AGENT_REF_UNKNOWN") = [] := by
    refine filter_issues_eq_nil (only_append ?_ (only_all fun _ _ => only_when ?_))
    · split
      · exact only_error rfl
      · exact only_nothing
    · exact only_warning rfl
  have hother : (tools ++ all i.toolCalls (instructionCall p i)).issues.filter
      (fun x => x.code == "CES_INSTRUCTION_AGENT_REF_UNKNOWN") = [] := by
    refine filter_issues_eq_nil (only_append (htoolsCode.mono fun x hx => ?_)
      (only_all fun call _ => (instructionCall_about call).2.mono fun x hx => ?_))
    · rw [hx.2]
      rfl
    · rcases List.mem_pair.mp hx.2 with hcode | hcode <;> rw [hcode] <;> rfl
  rw [instructionFindings_eq hglobal, issues_append failure_instructionSections, List.filter_append,
    hsections, List.nil_append, hreferences, Findings.append_assoc, issues_append rfl,
    List.filter_append, hother, List.append_nil]
  refine List.filter_eq_self.mpr fun x hx => ?_
  obtain ⟨r, -, rfl⟩ := List.mem_map.mp hx
  rfl

end Parts

/-- The instruction that a text is read as is checked, unless it is the global one. -/
theorem checksInstruction_parse {agentName : String} {path : Path} {text : List Char}
    (hname : agentName ≠ globalAgentName) :
    ChecksInstruction p agentName path text
      (instructionFindings p (Markup.parse agentName path text)).issues := by
  have hglobal : (Markup.parse agentName path text).isGlobal = false := beq_eq_false_iff_ne.mpr hname
  have hunknown := filter_unknownAgents (p := p) hglobal
  rw [Markup.referencesOf_parse, List.filter_flatMap, List.map_flatMap] at hunknown
  refine ⟨?_, fun l line names hl hnames => ?_, fun x hx hcode => ?_⟩
  · rw [parseError_instructionFindings_iff hglobal, ne_eq, Markup.parseError?_eq_none, not_iff_not]
    exact ⟨Markup.exists_pairs_of_opened_eq_nil, fun ⟨_, h⟩ => Markup.opened_eq_nil_of_pairs h⟩
  · -- of all lines only this one has its number
    have hnumbers : ((Text.lines text).zipIdx 1).Nodup :=
      (Markup.pairwise_zipIdx _ _).imp fun hlt heq => Nat.ne_of_lt hlt (congrArg Prod.snd heq)
    rw [← List.filter_filter, hunknown, List.filter_flatMap,
      List.flatMap_eq_of_nodup hnumbers hl fun y hy hne => ?_]
    · obtain rfl := Markup.refers_iff.mp hnames
      -- all references of the line are reported at it
      rw [List.filter_eq_self.mpr, Markup.referencesIn, List.filter_map, List.map_map]
      · rfl
      · intro x hx
        obtain ⟨r, hr, rfl⟩ := List.mem_map.mp hx
        obtain ⟨name, -, rfl⟩ := List.mem_map.mp (List.mem_filter.mp hr).1
        exact beq_self_eq_true _
    · refine List.filter_eq_nil_iff.mpr fun x hx hline => hne ?_
      obtain ⟨r, hr, rfl⟩ := List.mem_map.mp hx
      obtain ⟨name, -, rfl⟩ := List.mem_map.mp (List.mem_filter.mp hr).1
      have hnumber : y.2 = line := Int.ofNat.inj (Option.some.inj (beq_iff_eq.mp hline))
      obtain ⟨l', line'⟩ := y
      subst hnumber
      exact Prod.ext (Markup.line_unique hy hl) rfl
  · have hmem : x ∈ (instructionFindings p (Markup.parse agentName path text)).issues.filter
        (fun x => x.code == "CES_INSTRUCTION_AGENT_REF_UNKNOWN") :=
      List.mem_filter.mpr ⟨hx, beq_iff_eq.mpr hcode⟩
    rw [hunknown] at hmem
    obtain ⟨⟨l, line⟩, hl, hmem⟩ := List.mem_flatMap.mp hmem
    obtain ⟨r, hr, rfl⟩ := List.mem_map.mp hmem
    obtain ⟨name, -, rfl⟩ := List.mem_map.mp (List.mem_filter.mp hr).1
    exact ⟨l, line, hl, rfl⟩

section Package

variable {t₀ : FileTree}

/-- What the rule about instructions reports. It never fails. Of each text file with an instruction in
the directory of an agent it tells what is wrong with the text, unless the agent has the name that the
global instruction stands under: then nothing is reported about the file. Nothing is reported about
the global instruction either. The package was built from a tree `t₀`, which may have changed since
into `t`. -/
theorem instructions_check (ht : t₀.WellFormed) {cwd path : Path} (hcwd : cwd.Proper)
    (hpath : path.Proper) (hp : Package.build t₀ cwd path = .ok p) (t : FileTree)
    (settings : AuditSettings) :
    (instructions.findings t p settings).failure = none ∧
    (∀ name text, IsFileName name →
      let file := (p.agentDir name).entry instructionName
      t₀.readText file file = .ok text →
        (name ≠ globalAgentName → ChecksInstruction p name file text
          ((instructions.findings t p settings).about file.text)) ∧
        (name = globalAgentName →
          (instructions.findings t p settings).about file.text = [])) ∧
    (instructions.findings t p settings).about (p.root.entry globalInstructionName).text = [] := by
  obtain ⟨hindexed, ⟨hroot, habsolute⟩, -⟩ := Package.indexed_of_build hcwd hpath hp
  have hfailure : (all p.instructions (instructionFindings p)).failure = none :=
    failure_all_eq_none.mpr fun _ _ => instructionFindings_about.1
  refine ⟨hfailure, ?_, ?_⟩
  · intro name text hname file htext
    -- the file was read as the instruction of the agent
    obtain ⟨content, -, hend, -⟩ := end?_of_readText htext
    have hdir : t₀.end? (p.agentDir name) = some .directory :=
      ht.end?_of_append (List.cons_ne_nil _ _) hend
    obtain ⟨a, ha, rfl⟩ := hindexed.exists_agent ht hroot hname hdir
    have hat := (hindexed.agentAt ht hroot ha).dir
    have hfile : a.dir.entry instructionName = file := by rw [hat]
    obtain ⟨i, hi, hparse⟩ := hindexed.exists_instruction ht ha (hfile ▸ hend)
    rw [hfile, Markup.parseFile, htext] at hparse
    obtain rfl := Except.ok.inj hparse
    have habout := about_all hfailure (fun _ _ => instructionFindings_about.2)
      (hindexed.nodup_instruction_paths ht hroot habsolute) hi
    constructor
    · intro hne
      exact habout ▸ checksInstruction_parse hne
    · intro heq
      have hglobal : (Markup.parse a.name file text).isGlobal = true := beq_iff_eq.mpr heq
      refine habout.trans ?_
      rw [instructionFindings, hglobal]
      rfl
  · refine about_eq_nil (only_all fun i hi => ?_)
    rcases mem_instructions hindexed.instructions hi with ⟨a, ha, -, hpath⟩ | ⟨hname, -⟩
    · -- the instructions of agents lie elsewhere
      refine instructionFindings_about.2.mono fun x hx htext => ?_
      refine hindexed.agentFile_ne ht hroot ha instructionName globalInstructionName ?_
      have hisName : Path.IsName instructionName := by decide
      have hproper := hindexed.agentFile_proper ht hroot habsolute ha hisName
      exact Path.text_injective hproper.1 (Path.entry_proper hroot (by decide)) hproper.2 habsolute
        (hpath ▸ hx.symm.trans htext)
    · have hglobal : i.isGlobal = true := beq_iff_eq.mpr hname
      rw [instructionFindings, hglobal]
      exact only_nothing

section Reserved

/-- A package with two agents that have the same instruction, one of them with the name that the
global instruction stands under. -/
def reserved : FileTree :=
  ⟨[(["p"], .directory), (["p", "global_instruction.txt"], .file "<role>\n".toUTF8),
    (["p", "agents"], .directory), (["p", "agents", "clerk"], .directory),
    (["p", "agents", "clerk", "instruction.txt"],
      .file "<role>\n\x7b@AGENT: nobody\x7d, \x7b@AGENT:clerk\x7d, \x7b@AGENT:nobody\x7d\n".toUTF8),
    (["p", "agents", "__global__"], .directory),
    (["p", "agents", "__global__", "instruction.txt"],
      .file "<role>\n\x7b@AGENT: nobody\x7d, \x7b@AGENT:clerk\x7d, \x7b@AGENT:nobody\x7d\n".toUTF8)]⟩

/-- The root of the package. -/
def reservedRoot : Path :=
  ⟨.root, ["p"]⟩

/-- The text of both instructions. -/
def reservedText : List Char :=
  "<role>\n\x7b@AGENT: nobody\x7d, \x7b@AGENT:clerk\x7d, \x7b@AGENT:nobody\x7d\n".toList

set_option maxRecDepth 10000 in
/-- Of the instruction of one agent the open section and both references to the agent that is not
there are reported. -/
theorem instructions_check_reserved :
    reserved.WellFormed ∧ reservedRoot.Proper ∧ IsFileName "clerk" ∧
      "clerk" ≠ globalAgentName ∧
      ∃ p, Package.build reserved reservedRoot reservedRoot = .ok p ∧
        reserved.readText ((p.agentDir "clerk").entry instructionName)
          ((p.agentDir "clerk").entry instructionName) = .ok reservedText ∧
        ChecksInstruction p "clerk" ((p.agentDir "clerk").entry instructionName) reservedText
          ((instructions.findings reserved p {}).about "/p/agents/clerk/instruction.txt") ∧
        ((instructions.findings reserved p {}).about "/p/agents/clerk/instruction.txt").map
            (fun i => (i.code, i.line)) =
          [("CES_INSTRUCTION_PARSE_ERROR", some 1), ("CES_INSTRUCTION_MISSING_SECTION", some 1),
            ("CES_INSTRUCTION_AGENT_REF_UNKNOWN", some 2),
            ("CES_INSTRUCTION_AGENT_REF_UNKNOWN", some 2)] := by
  have ht : reserved.WellFormed := by decide +kernel
  have hroot : reservedRoot.Proper := by decide
  have hname : IsFileName "clerk" := by decide
  have hother : "clerk" ≠ globalAgentName := by decide
  obtain ⟨p, hp, htext, hfile, hissues⟩ : ∃ p,
      Package.build reserved reservedRoot reservedRoot = .ok p ∧
      reserved.readText ((p.agentDir "clerk").entry instructionName)
        ((p.agentDir "clerk").entry instructionName) = .ok reservedText ∧
      ((p.agentDir "clerk").entry instructionName).text = "/p/agents/clerk/instruction.txt" ∧
      ((instructions.findings reserved p {}).about "/p/agents/clerk/instruction.txt").map
          (fun i => (i.code, i.line)) =
        [("CES_INSTRUCTION_PARSE_ERROR", some 1), ("CES_INSTRUCTION_MISSING_SECTION", some 1),
          ("CES_INSTRUCTION_AGENT_REF_UNKNOWN", some 2),
          ("CES_INSTRUCTION_AGENT_REF_UNKNOWN", some 2)] := by
    decide +kernel
  have hchecks := ((instructions_check ht hroot hroot hp reserved {}).2.1 "clerk" reservedText hname
    htext).1 hother
  rw [hfile] at hchecks
  exact ⟨ht, hroot, hname, hother, p, hp, htext, hchecks, hissues⟩

set_option maxRecDepth 10000 in
/-- Nothing is reported about the same instruction of the other agent. -/
theorem reserved_name_not_checked :
    (∃ p, Package.build reserved reservedRoot reservedRoot = .ok p ∧
      p.agentNames = ["__global__", "clerk"] ∧
      reserved.readText ((p.agentDir "__global__").entry instructionName)
        ((p.agentDir "__global__").entry instructionName) = .ok reservedText ∧
      (instructions.findings reserved p {}).about "/p/agents/__global__/instruction.txt" = []) ∧
    (¬ ∃ partner, Markup.Pairs reservedText (Markup.ClosesFirstAt reservedText) partner) ∧
    ((Text.lines reservedText)[1]?.map fun l => Markup.references .agent l) =
      some ["nobody", "clerk", "nobody"] := by
  refine ⟨by decide +kernel, ?_, by decide +kernel⟩
  rintro ⟨partner, hpairs⟩
  have hopen : (Markup.readLines reservedText).opened ≠ [] := by decide +kernel
  exact hopen (Markup.opened_eq_nil_of_pairs hpairs)

end Reserved

end Package

end Rule

end AgentPackage
