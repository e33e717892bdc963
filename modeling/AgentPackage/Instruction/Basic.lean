import AgentPackage.FileTree.Path

/-!
# Instructions

What the instruction text of an agent holds: its closed sections, its references to agents and
tools, and the calls of tools in its examples.
-/

namespace AgentPackage

/-- The name under which the global instruction of a package stands. -/
def globalAgentName : String := "__global__"

/-- A closed section with the lines of its opening and its closing tag, counted from one. -/
structure Section where
  /-- The name of the section, in lower case. -/
  name : String
  /-- The line of the opening tag. -/
  startLine : Nat
  /-- The line of the closing tag. -/
  endLine : Nat
  deriving DecidableEq, Repr

/-- A section that has been opened. -/
structure OpenSection where
  /-- The name of the section, in lower case. -/
  name : String
  /-- The line of the opening tag. -/
  startLine : Nat
  deriving DecidableEq, Repr

/-- What a reference names. -/
inductive ReferenceKind where
  /-- An agent. -/
  | agent
  /-- A tool. -/
  | tool
  deriving DecidableEq, Repr

/-- A reference to an agent or a tool. -/
structure Reference where
  /-- What the reference names. -/
  kind : ReferenceKind
  /-- The name. -/
  name : String
  /-- The line of the reference. -/
  line : Nat
  deriving DecidableEq, Repr

/-- A call of a tool inside an examples section. -/
structure ToolCall where
  /-- The name that is called, with the name of a toolset in front if it has one. -/
  operation : String
  /-- The line of the call. -/
  line : Nat
  deriving DecidableEq, Repr

namespace ToolCall

/-- The parts of the called name between dots. -/
def parts (c : ToolCall) : List String :=
  (Text.split (· == '.') c.operation.toList).map String.ofList

/-- The toolset that the call names, if it names one. -/
def toolset? (c : ToolCall) : Option String :=
  match c.parts with
  | toolset :: _ :: _ => some toolset
  | _ => none

/-- The operation that the call names: the second part of a dotted name, or the whole name. -/
def operationName (c : ToolCall) : String :=
  match c.parts with
  | _ :: operation :: _ => operation
  | _ => c.operation

end ToolCall

/-- The content of the instruction of an agent. -/
structure Instruction where
  /-- The name of the agent. -/
  agentName : String
  /-- The file that holds the instruction. -/
  path : Path
  /-- The closed sections, in the order of their closing tags. -/
  sections : List Section := []
  /-- The references, in the order of the lines. -/
  references : List Reference := []
  /-- The calls of tools in examples, in the order of the text. -/
  toolCalls : List ToolCall := []
  /-- The sections that were opened and not closed, in the order of their opening tags. -/
  unclosed : List OpenSection := []
  /-- Why the file could not be read, if it could not. -/
  readError : Option String := none

namespace Instruction

/-- Whether the instruction is the global one. -/
def isGlobal (i : Instruction) : Bool :=
  i.agentName == globalAgentName

/-- Whether there is a closed section of a name. -/
def hasSection (i : Instruction) (name : String) : Bool :=
  i.sections.any fun s => s.name == name

/-- The wording of sections that were not closed. -/
def unclosedMessage (unclosed : List OpenSection) : String :=
  "Unclosed section(s): " ++ ", ".intercalate
    (unclosed.map fun s => "<" ++ s.name ++ "> at line " ++ toString s.startLine)

/-- What is wrong with the instruction: its file could not be read, or a section is open. -/
def parseError? (i : Instruction) : Option String :=
  match i.readError, i.unclosed with
  | some e, _ => some e
  | none, [] => none
  | none, unclosed => some (unclosedMessage unclosed)

/-- The line of the first section that was not closed. -/
def parseErrorLine? (i : Instruction) : Option Nat :=
  i.unclosed.head?.map OpenSection.startLine

/-- The references of a kind. -/
def referencesOf (i : Instruction) (kind : ReferenceKind) : List Reference :=
  i.references.filter fun r => r.kind == kind

end Instruction

end AgentPackage
