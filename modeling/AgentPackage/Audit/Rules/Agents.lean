import AgentPackage.Audit.Findings
import AgentPackage.Package.Declared

/-!
# Agents

The manifest of an agent has to load, its fields have to fit, its instruction has to be the file
in the folder of the agent, and the agents and toolsets that it names have to exist.
-/

namespace AgentPackage.Rule

/-- The findings about the instruction that an agent declares. -/
def agentInstruction (t : FileTree) (p : Package) (agent : Entity AgentManifest)
    (manifest : AgentManifest) : Findings :=
  let path := agent.manifestPath
  Findings.check (Document.lineContaining t path "instruction") fun line =>
    let instruction := manifest.instruction.getD ""
    if Text.isAllBlank instruction then
      Findings.when (!agent.fieldIssues.any fun i => i.field == "instruction") <|
        Findings.error "CES_AGENT_INSTRUCTION_MISSING"
          ("Agent '" ++ agent.name ++ "' must define instruction path") path line
    else
      let expected := "agents/" ++ agent.name ++ "/instruction.txt"
      let declared := Declared.withSlashes (Text.trim instruction)
      Findings.when (declared != expected)
        (Findings.error "CES_AGENT_INSTRUCTION_PATH_MISMATCH"
          ("Agent '" ++ agent.name ++ "' instruction should be '" ++ expected ++ "'") path line) ++
      Findings.check (p.pathExists t (Declared.resolve p.root declared)) fun pathExists =>
        Findings.when (!pathExists) <|
          Findings.error "CES_AGENT_INSTRUCTION_FILE_MISSING"
            ("Instruction file does not exist: " ++ declared) path line

/-- The findings about the child agents that an agent names. -/
def childAgents (t : FileTree) (p : Package) (agent : Entity AgentManifest)
    (manifest : AgentManifest) : Findings :=
  Findings.all (manifest.childAgents.getD []) fun child =>
    Findings.when (!Text.isAllBlank child && !p.agentNames.contains child) <|
      Findings.errorAt t "CES_CHILD_AGENT_MISSING"
        ("childAgent '" ++ child ++ "' does not exist under agents/") agent.manifestPath child

/-- The findings about the toolsets that an agent names. -/
def agentToolsets (t : FileTree) (p : Package) (agent : Entity AgentManifest)
    (manifest : AgentManifest) : Findings :=
  Findings.all manifest.toolsetNames fun toolset =>
    Findings.when (!p.toolsetNames.contains toolset) <|
      Findings.errorAt t "CES_AGENT_TOOLSET_REFERENCE_MISSING"
        ("Agent '" ++ agent.name ++ "' references missing toolset '" ++ toolset ++ "'")
        agent.manifestPath toolset

/-- The findings about one agent. -/
def agentFindings (t : FileTree) (p : Package) (agent : Entity AgentManifest) : Findings :=
  (match agent.error with
    | some reason =>
      Findings.error "CES_AGENT_MANIFEST_INVALID"
        ("Agent manifest error for '" ++ agent.name ++ "': " ++ reason) agent.manifestPath (some 1)
    | none => Findings.nothing) ++
  match agent.manifest with
  | none => Findings.nothing
  | some manifest =>
    Findings.fieldErrors t "CES_AGENT_FIELD_INVALID" ("Agent '" ++ agent.name ++ "'")
      agent.manifestPath agent.fieldIssues ++
    agentInstruction t p agent manifest ++
    childAgents t p agent manifest ++
    agentToolsets t p agent manifest

/-- The rule about agents. -/
def agents : Rule where
  name := "agents"
  findings t p _ := Findings.all p.agents (agentFindings t p)

end AgentPackage.Rule
