import AgentPackage.Package.Model

/-!
# The inventory of a package

Collects the names that can be called: the tools in the manifests of agents and the script
tools, and the operations that references and manifests of toolsets list. Names are kept once,
in order.
-/

namespace AgentPackage.Inventory

/-- Puts a name into an ordered list without repetitions. -/
def insertName (name : String) : List String → List String
  | [] => [name]
  | n :: ns =>
    if name == n then n :: ns
    else if name < n then name :: n :: ns
    else n :: insertName name ns

/-- The names of a list, each once, in order. -/
def orderedNames (names : List String) : List String :=
  names.foldl (fun set name => insertName name set) []

/-- A name is put into a list and nothing else is. -/
theorem mem_insertName {name x : String} {names : List String} :
    x ∈ insertName name names ↔ x = name ∨ x ∈ names := by
  fun_induction insertName name names <;> grind

/-- Ordering the names of a list keeps them. -/
theorem mem_orderedNames {x : String} {names : List String} :
    x ∈ orderedNames names ↔ x ∈ names := by
  have key : ∀ (ns set : List String),
      x ∈ ns.foldl (fun set name => insertName name set) set ↔ x ∈ ns ∨ x ∈ set := by
    intro ns
    induction ns with
    | nil => simp
    | cons n ns ih =>
      intro set
      simp only [List.foldl_cons, ih, mem_insertName, List.mem_cons]
      grind
  simpa [orderedNames] using key names []

/-- The names of a list that are not blank. -/
def notBlank (names : Option (List String)) : List String :=
  (names.getD []).filter fun s => !Text.isAllBlank s

/-- The tools that an agent lists. -/
def agentTools (a : Entity AgentManifest) : List String :=
  notBlank (a.manifest.bind AgentManifest.tools)

/-- The references to toolsets that an agent lists. -/
def agentReferences (a : Entity AgentManifest) : List ToolsetReference :=
  ((a.manifest.bind AgentManifest.toolsets).getD []).filterMap fun
    | .reference r => some r
    | .name _ => none

/-- The operations that a toolset has by some list, with the name of the toolset. -/
def operationsOf (toolset : Option String) (ids : Option (List String)) :
    List (Option String × String) :=
  (notBlank ids).map fun id => (toolset, id)

/-- All operations that agents and toolsets list, with the names of their toolsets. -/
def allOperations (agents : List (Entity AgentManifest)) (toolsets : List Toolset) :
    List (Option String × String) :=
  (agents.flatMap fun a => (agentReferences a).flatMap fun r => operationsOf r.toolset r.toolIds) ++
    toolsets.flatMap fun t =>
      operationsOf (some t.entity.name) (t.entity.manifest.bind ToolsetManifest.toolIds)

/-- The name of an operation with the name of its toolset in front, if that has one. -/
def namespacedName? : Option String × String → Option String
  | (some toolset, id) => if toolset == "" then none else some (toolset ++ "." ++ id)
  | (none, _) => none

/-- The names that can be called in a package with these agents, toolsets and script tools. -/
def build (agents : List (Entity AgentManifest)) (toolsets : List Toolset)
    (scriptTools : List (Entity ScriptToolManifest)) : Inventory :=
  let operations := allOperations agents toolsets
  { directTools := orderedNames (agents.flatMap agentTools ++ scriptTools.map Entity.name)
    operations := orderedNames (operations.map Prod.snd)
    namespaced := orderedNames (operations.filterMap namespacedName?) }

end AgentPackage.Inventory
