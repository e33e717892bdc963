import AgentPackage.Audit.Findings

/-!
# Instructions

The instruction of an agent has to close its sections and to have a role, and the agents, tools
and toolsets that it names have to exist. The global instruction is not looked at.
-/

namespace AgentPackage.Rule

/-- The sections that an instruction has to have. -/
def requiredSections : List String := ["role"]

/-- How findings name an instruction. -/
def instructionSubject (i : Instruction) : String :=
  "Instruction for '" ++ i.agentName ++ "'"

/-- The findings about the sections of an instruction. -/
def instructionSections (i : Instruction) : Findings :=
  (match i.parseError? with
    | some reason =>
      Findings.error "CES_INSTRUCTION_PARSE_ERROR"
        ("Instruction parse error for '" ++ i.agentName ++ "': " ++ reason) i.path
        (some (i.parseErrorLine?.getD 1))
    | none => Findings.nothing) ++
  Findings.all requiredSections fun name =>
    Findings.when (!i.hasSection name) <|
      Findings.warning "CES_INSTRUCTION_MISSING_SECTION"
        (instructionSubject i ++ " is missing required <" ++ name ++ "> section") i.path (some 1)

/-- The findings about the agents and the tools that an instruction refers to. -/
def instructionReferences (p : Package) (i : Instruction) : Findings :=
  (Findings.all (i.referencesOf .agent) fun r =>
    Findings.when (!p.agentNames.contains r.name) <|
      Findings.error "CES_INSTRUCTION_AGENT_REF_UNKNOWN"
        (instructionSubject i ++ " references unknown agent '" ++ r.name ++ "' at line " ++
          toString r.line) i.path (some r.line)) ++
  Findings.all (i.referencesOf .tool) fun r =>
    Findings.when (!p.directTools.isEmpty && !p.directTools.contains r.name) <|
      Findings.warning "CES_INSTRUCTION_TOOL_REF_UNKNOWN"
        (instructionSubject i ++ " references unknown tool '" ++ r.name ++ "' at line " ++
          toString r.line) i.path (some r.line)

/-- The findings about a call of a tool in an instruction. -/
def instructionCall (p : Package) (i : Instruction) (call : ToolCall) : Findings :=
  match call.toolset? with
  | some toolset =>
    Findings.when (!p.toolsetNames.contains toolset) <|
      Findings.warning "CES_INSTRUCTION_TOOLCALL_UNKNOWN_TOOLSET"
        (instructionSubject i ++ ": tool_call '" ++ call.operation ++
          "' references unknown toolset '" ++ toolset ++ "' at line " ++ toString call.line)
        i.path (some call.line)
  | none =>
    Findings.when (!p.directTools.isEmpty && !p.directTools.contains call.operationName) <|
      Findings.warning "CES_INSTRUCTION_TOOLCALL_UNKNOWN_TOOL"
        (instructionSubject i ++ ": tool_call '" ++ call.operation ++
          "' is not a known direct tool at line " ++ toString call.line) i.path (some call.line)

/-- The findings about one instruction. -/
def instructionFindings (p : Package) (i : Instruction) : Findings :=
  Findings.when (!i.isGlobal) <|
    instructionSections i ++ instructionReferences p i ++
      Findings.all i.toolCalls (instructionCall p i)

/-- The rule about instructions. -/
def instructions : Rule where
  name := "instructions"
  findings _ p _ := Findings.all p.instructions (instructionFindings p)

end AgentPackage.Rule
