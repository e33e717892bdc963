import AgentPackage.Manifest.Cleaning
import AgentPackage.Text.Blank
import AgentPackage.Value.Copy

/-!
# Kinds of manifests

The manifests of a package: that of the package itself and those of its agents, toolsets,
guardrails, script tools and evaluations. Each is loaded from a mapping: what does not fit is
dropped and reported, and keys that are no fields are kept. The mapping is copied before, which
fails if it is nested too deep.
-/

namespace AgentPackage

/-- The manifest of a package. -/
structure AppManifest where
  /-- The name shown to people. -/
  displayName : Option String
  /-- The name of the root agent. -/
  rootAgent : Option String
  /-- The global instruction, or the path of its file. -/
  globalInstruction : Option String
  /-- The names of guardrails. -/
  guardrails : Option (List String)
  /-- The other keys. -/
  extras : Fields
  deriving Inhabited

/-- A reference of an agent to a toolset, with the operations it uses. -/
structure ToolsetReference where
  /-- The name of the toolset. -/
  toolset : Option String
  /-- The names of operations. -/
  toolIds : Option (List String)
  /-- The other keys. -/
  extras : Fields
  deriving Inhabited

/-- An entry of an agent's list of toolsets. -/
inductive ToolsetEntry where
  /-- The name of a toolset. -/
  | name (s : String)
  /-- A reference to a toolset. -/
  | reference (r : ToolsetReference)

/-- The manifest of an agent. -/
structure AgentManifest where
  /-- The name shown to people. -/
  displayName : Option String
  /-- The path of the instruction. -/
  instruction : Option String
  /-- The names of child agents. -/
  childAgents : Option (List String)
  /-- The names of tools. -/
  tools : Option (List String)
  /-- The toolsets. -/
  toolsets : Option (List ToolsetEntry)
  /-- The other keys. -/
  extras : Fields
  deriving Inhabited

/-- The part of a toolset's manifest that is about its OpenAPI schema. -/
structure OpenApiToolset where
  /-- The path of the schema. -/
  openApiSchema : Option String
  /-- The other keys. -/
  extras : Fields
  deriving Inhabited

/-- The manifest of a toolset. -/
structure ToolsetManifest where
  /-- The name shown to people. -/
  displayName : Option String
  /-- The part about the schema. -/
  openApiToolset : Option OpenApiToolset
  /-- The names of operations. -/
  toolIds : Option (List String)
  /-- The other keys. -/
  extras : Fields
  deriving Inhabited

/-- The manifest of a guardrail. -/
structure GuardrailManifest where
  /-- The name shown to people. -/
  displayName : Option String
  /-- The other keys. -/
  extras : Fields
  deriving Inhabited

/-- The manifest of a script tool. -/
structure ScriptToolManifest where
  /-- The name shown to people. -/
  displayName : Option String
  /-- The other keys. -/
  extras : Fields
  deriving Inhabited

/-- The manifest of an evaluation. -/
structure EvaluationManifest where
  /-- The name shown to people. -/
  displayName : Option String
  /-- The conversation that is expected. -/
  golden : Option Fields
  /-- The other keys. -/
  extras : Fields
  deriving Inhabited

namespace Manifest

/-- A field that holds a string. -/
def text (key otherKey : String) : FieldShape Shape := ⟨key, otherKey, .leaf .text⟩

/-- A field that holds a list of strings. -/
def texts (key otherKey : String) : FieldShape Shape := ⟨key, otherKey, .leaf .texts⟩

/-- The field that every manifest has. -/
def displayName : FieldShape Shape := text "displayName" "display_name"

/-- The field with an agent's name in the manifest of a package. -/
def rootAgent : FieldShape Shape := text "rootAgent" "root_agent"

/-- The field with the global instruction. -/
def globalInstruction : FieldShape Shape := text "globalInstruction" "global_instruction"

/-- The field with the names of guardrails. -/
def guardrails : FieldShape Shape := texts "guardrails" "guardrails"

/-- The shape of the manifest of a package. -/
def appShape : RecordShape Shape :=
  ⟨"AppManifest", [displayName, rootAgent, globalInstruction, guardrails]⟩

/-- The field with the name of a toolset. -/
def toolset : FieldShape LeafShape := ⟨"toolset", "toolset", .text⟩

/-- The field with the names of operations of a reference to a toolset. -/
def referenceToolIds : FieldShape LeafShape := ⟨"toolIds", "tool_ids", .texts⟩

/-- The shape of a reference to a toolset. -/
def referenceShape : RecordShape LeafShape :=
  ⟨"AgentToolsetRef", [toolset, referenceToolIds]⟩

/-- The field with the path of an agent's instruction. -/
def instruction : FieldShape Shape := text "instruction" "instruction"

/-- The field with the names of child agents. -/
def childAgents : FieldShape Shape := texts "childAgents" "child_agents"

/-- The field with the names of tools. -/
def tools : FieldShape Shape := texts "tools" "tools"

/-- The field with the toolsets of an agent. -/
def toolsets : FieldShape Shape := ⟨"toolsets", "toolsets", .mixed referenceShape⟩

/-- The shape of the manifest of an agent. -/
def agentShape : RecordShape Shape :=
  ⟨"AgentManifest", [displayName, instruction, childAgents, tools, toolsets]⟩

/-- The field with the path of a schema. -/
def openApiSchema : FieldShape LeafShape := ⟨"openApiSchema", "open_api_schema", .text⟩

/-- The shape of the part of a toolset's manifest that is about its schema. -/
def openApiShape : RecordShape LeafShape := ⟨"OpenApiToolsetSpec", [openApiSchema]⟩

/-- The field with the part about the schema. -/
def openApiToolset : FieldShape Shape :=
  ⟨"openApiToolset", "open_api_toolset", .record openApiShape⟩

/-- The field with the names of operations of a toolset. -/
def toolIds : FieldShape Shape := texts "toolIds" "tool_ids"

/-- The shape of the manifest of a toolset. -/
def toolsetShape : RecordShape Shape :=
  ⟨"ToolsetManifest", [displayName, openApiToolset, toolIds]⟩

/-- The shape of the manifest of a guardrail. -/
def guardrailShape : RecordShape Shape := ⟨"GuardrailManifest", [displayName]⟩

/-- The shape of the manifest of a script tool. -/
def scriptToolShape : RecordShape Shape := ⟨"ScriptToolManifest", [displayName]⟩

/-- The field with the conversation that is expected. -/
def golden : FieldShape Shape := ⟨"golden", "golden", .mapping⟩

/-- The shape of the manifest of an evaluation. -/
def evaluationShape : RecordShape Shape := ⟨"EvaluationManifest", [displayName, golden]⟩

/-- The string in a field. -/
def textOf {α : Type} (f : FieldShape α) (fields : Fields) : Option String :=
  (f.find? fields).bind fun e => e.2.str?

/-- The list of strings in a field. -/
def textsOf {α : Type} (f : FieldShape α) (fields : Fields) : Option (List String) :=
  (f.find? fields).bind fun e => (Shape.elements? e.2).map fun xs => xs.filterMap Value.str?

/-- The entries of a mapping that are none of the fields: a field takes up one key, in the spelling
that wins. -/
def extrasOf {α : Type} (r : RecordShape α) (fields : Fields) : Fields :=
  let used := r.fields.filterMap fun f => (f.find? fields).map Prod.fst
  fields.filter fun e => e.1.str?.any fun key => !used.contains key

/-- The manifest of a package in a clean mapping. -/
def app (fields : Fields) : AppManifest :=
  { displayName := textOf displayName fields
    rootAgent := textOf rootAgent fields
    globalInstruction := textOf globalInstruction fields
    guardrails := textsOf guardrails fields
    extras := extrasOf appShape fields }

/-- The entry of a list of toolsets that a value stands for. -/
def toolsetEntry? : Value → Option ToolsetEntry
  | .str s => some (.name s)
  | .map fields => some (.reference
      { toolset := textOf toolset fields
        toolIds := textsOf referenceToolIds fields
        extras := extrasOf referenceShape fields })
  | _ => none

/-- The manifest of an agent in a clean mapping. -/
def agent (fields : Fields) : AgentManifest :=
  { displayName := textOf displayName fields
    instruction := textOf instruction fields
    childAgents := textsOf childAgents fields
    tools := textsOf tools fields
    toolsets := (toolsets.find? fields).bind fun e =>
      (Shape.elements? e.2).map fun xs => xs.filterMap toolsetEntry?
    extras := extrasOf agentShape fields }

/-- The manifest of a toolset in a clean mapping. -/
def toolsetManifest (fields : Fields) : ToolsetManifest :=
  { displayName := textOf displayName fields
    openApiToolset := (openApiToolset.find? fields).bind fun e =>
      e.2.map?.map fun inner =>
        { openApiSchema := textOf openApiSchema inner
          extras := extrasOf openApiShape inner }
    toolIds := textsOf toolIds fields
    extras := extrasOf toolsetShape fields }

/-- The manifest of a guardrail in a clean mapping. -/
def guardrail (fields : Fields) : GuardrailManifest :=
  { displayName := textOf displayName fields, extras := extrasOf guardrailShape fields }

/-- The manifest of a script tool in a clean mapping. -/
def scriptTool (fields : Fields) : ScriptToolManifest :=
  { displayName := textOf displayName fields, extras := extrasOf scriptToolShape fields }

/-- The entries of a mapping under the texts of their keys; of several with the same text the last
one counts. -/
def textKeyed (fields : Fields) : Fields :=
  if fields.all fun e => e.1.isStr then fields
  else Fields.ofList (fields.map fun e => ((keyText e.1).toOption.elim e.1 .str, e.2))

/-- The manifest of an evaluation in a clean mapping. -/
def evaluation (fields : Fields) : EvaluationManifest :=
  { displayName := textOf displayName fields
    golden := (golden.find? fields).bind fun e => e.2.map?.map textKeyed
    extras := extrasOf evaluationShape fields }

/-- Copies a mapping, cleans it by a shape and takes the manifest from what is left. `room` is the
number of calls that there is room for. -/
def load {α : Type} (shape : RecordShape Shape) (build : Fields → α) (fields : Fields)
    (room : Nat := callRoom) : Except Failure (α × List FieldIssue) :=
  if room < fields.copyCalls then .error (.tooDeep .object)
  else do
    let (clean, issues) ← Cleaning.clean shape fields
    return (build clean, issues)

end Manifest

namespace AgentManifest

/-- The name of the toolset that an entry refers to. -/
def entryName? : ToolsetEntry → Option String
  | .name s => some s
  | .reference r => r.toolset

/-- The names of the toolsets that the agent refers to, empty ones left out. -/
def toolsetNames (m : AgentManifest) : List String :=
  ((m.toolsets.getD []).filterMap entryName?).filter fun s => s != ""

end AgentManifest

namespace ToolsetManifest

/-- The path of the schema that the manifest declares. -/
def declaredSchemaPath (m : ToolsetManifest) : Option String :=
  m.openApiToolset.bind OpenApiToolset.openApiSchema

end ToolsetManifest

namespace EvaluationManifest

/-- The value under a key of a mapping. -/
def field? (key : String) (v : Value) : Option Value :=
  v.map?.bind fun fields => fields.get? key

/-- The name of the tool whose call a step expects. -/
def expectedTool? (step : Value) : Option String := do
  let expectation ← field? "expectation" step
  let call ← field? "toolCall" expectation
  let name ← (← field? "tool" call).str?
  if Text.isAllBlank name then none else some name

/-- The names of the tools whose calls a turn expects. -/
def turnTools (turn : Value) : List String :=
  match (field? "steps" turn).bind Value.list? with
  | some steps => steps.filterMap expectedTool?
  | none => []

/-- The names of the tools whose calls the conversation expects, with the numbers of their turns,
counted from zero. -/
def expectedToolCalls (m : EvaluationManifest) : List (Nat × String) :=
  match m.golden.bind fun g => (Fields.get? g "turns").bind Value.list? with
  | some turns => turns.zipIdx.flatMap fun (turn, i) => (turnTools turn).map fun name => (i, name)
  | none => []

end EvaluationManifest

end AgentPackage
