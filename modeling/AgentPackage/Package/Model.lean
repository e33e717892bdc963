import AgentPackage.Document
import AgentPackage.Manifest.Kinds
import AgentPackage.Instruction.Markup

/-!
# The model of a package

What is known of a package after it was indexed: its manifest, the files and directories in it,
its agents, toolsets, evaluations and script tools, its instructions, and the tools that can be
called. A model is a snapshot; whether a path exists inside the package is answered from the
listing, outside of it by the file tree.
-/

namespace AgentPackage

/-- A folder that stands for an agent, a toolset, an evaluation or a script tool, with its
manifest of type `α`. -/
structure Entity (α : Type) where
  /-- The name of the folder. -/
  name : String
  /-- The folder. -/
  dir : Path
  /-- The file of the manifest. -/
  manifestPath : Path
  /-- The entries of the manifest as they were read. -/
  data : Option Fields := none
  /-- Why there is no manifest, if there is none. -/
  error : Option String := none
  /-- The values of the manifest that did not fit. -/
  fieldIssues : List FieldIssue := []
  /-- The manifest. -/
  manifest : Option α := none

/-- A toolset with its schema files. -/
structure Toolset where
  /-- The folder and the manifest. -/
  entity : Entity ToolsetManifest
  /-- The folder for the schema. -/
  schemaDir : Path
  /-- The first schema file in that folder. -/
  detectedSchema : Option Path

/-- The environment file of a package. -/
structure Environment where
  /-- The file. -/
  path : Path
  /-- What reading it gave. -/
  document : Document

/-- The names that can be called in a package. -/
structure Inventory where
  /-- Tools that agents call directly. -/
  directTools : List String
  /-- Operations of toolsets. -/
  operations : List String
  /-- Operations of toolsets with the name of the toolset in front. -/
  namespaced : List String

namespace Inventory

/-- Whether a name is that of an operation of a toolset. -/
def isOperation (i : Inventory) (name : String) : Bool :=
  i.operations.contains name || i.namespaced.contains name

end Inventory

/-- The manifest file of a package, if there is one. -/
inductive ManifestFile where
  /-- The file `app.yaml`. -/
  | yaml
  /-- The file `app.json`. -/
  | json
  /-- Neither. -/
  | none
  deriving DecidableEq, Repr

/-- The model of a package. -/
structure Package where
  /-- The root directory. -/
  root : Path
  /-- Whether there is a file `app.yaml`. -/
  hasAppYaml : Bool
  /-- Whether there is a file `app.json`. -/
  hasAppJson : Bool
  /-- What reading the manifest file gave, if there is one. -/
  document : Option Document
  /-- The manifest. -/
  manifest : Option AppManifest
  /-- The values of the manifest that did not fit. -/
  fieldIssues : List FieldIssue
  /-- All files, in order. -/
  files : List Path
  /-- All directories, in order. -/
  directories : List Path
  /-- The names of the files in the root directory, in order. -/
  topLevelFiles : List String
  /-- The names of the directories in the root directory, in order. -/
  topLevelDirs : List String
  /-- The agents. -/
  agents : List (Entity AgentManifest)
  /-- The toolsets. -/
  toolsets : List Toolset
  /-- The evaluations. -/
  evaluations : List (Entity EvaluationManifest)
  /-- The script tools. -/
  scriptTools : List (Entity ScriptToolManifest)
  /-- The instructions of the agents, and the global one last. -/
  instructions : List Instruction
  /-- The folders of guardrails. -/
  guardrailDirs : List Path
  /-- The environment file, if there is one. -/
  environment : Option Environment
  /-- The names that can be called. -/
  inventory : Inventory

/-- The name of the YAML manifest of a package. -/
def appYamlName : String := "app.yaml"

/-- The name of the JSON manifest of a package. -/
def appJsonName : String := "app.json"

namespace Package

/-- Which manifest file counts: YAML wins. -/
def manifestFile (p : Package) : ManifestFile :=
  if p.hasAppYaml then .yaml else if p.hasAppJson then .json else .none

/-- The path of the manifest file, if there is one. -/
def manifestPath? (p : Package) : Option Path :=
  match p.manifestFile with
  | .yaml => some (p.root.entry appYamlName)
  | .json => some (p.root.entry appJsonName)
  | .none => none

/-- The path of the manifest file, or where it should be. -/
def defaultManifestPath (p : Package) : Path :=
  p.manifestPath?.getD (p.root.entry appYamlName)

/-- The names of the agents. -/
def agentNames (p : Package) : List String :=
  p.agents.map Entity.name

/-- The names of the toolsets. -/
def toolsetNames (p : Package) : List String :=
  p.toolsets.map fun t => t.entity.name

/-- The tools that agents call directly. -/
def directTools (p : Package) : List String :=
  p.inventory.directTools

/-- Whether a path lies inside the package, without regard to links. -/
def isInside (p : Package) (path : Path) : Bool :=
  (path.normalize.relativeTo? p.root).isSome

/-- Gives an access error with its path as a failure. -/
def access {α : Type} (path : Path) : Except AccessError α → Except Failure α
  | .ok a => .ok a
  | .error e => .error (.access ⟨e, path.text⟩)

/-- Whether a path is a file of the package, or leads to a file outside of it. -/
def hasFile (p : Package) (t : FileTree) (path : Path) : Except Failure Bool :=
  let path := path.normalize
  if p.isInside path then .ok (p.files.contains path) else access path (t.isFile path)

/-- Whether a path is a directory of the package, or leads to a directory outside of it. -/
def hasDirectory (p : Package) (t : FileTree) (path : Path) : Except Failure Bool :=
  let path := path.normalize
  if path == p.root then .ok true
  else if p.isInside path then .ok (p.directories.contains path)
  else access path (t.isDirectory path)

/-- Whether a path is a file or a directory. -/
def pathExists (p : Package) (t : FileTree) (path : Path) : Except Failure Bool := do
  if ← p.hasFile t path then return true
  p.hasDirectory t path

end Package

end AgentPackage
