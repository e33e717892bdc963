import AgentPackage.Package.Inventory

/-!
# Indexing a package

Builds the model of the package in a directory. Links are followed; a link that leads back to a
directory on the way to it is listed and not entered. Files that cannot be read or do not parse
are recorded where they belong. Indexing fails only where an entry of a directory cannot be
followed, or where a document or a manifest cannot be taken up at all.
-/

namespace AgentPackage

namespace Index

/-- The name of the folder of a toolset that holds its schema. -/
def schemaDirName : String := "open_api_toolset"

/-- The name of the file with the instruction of an agent. -/
def instructionName : String := "instruction.txt"

/-- The name of the file with the global instruction of a package. -/
def globalInstructionName : String := "global_instruction.txt"

/-- The name of the environment file of a package. -/
def environmentName : String := "environment.json"

/-- The extensions of schema files. -/
def schemaExtensions : List String := [".yaml", ".yml", ".json"]

/-- Gives an access fault as a failure. -/
def lift {α : Type} : Except AccessFault α → Except Failure α
  | .ok a => .ok a
  | .error f => .error (.access f)

/-- The entries of a directory; nothing if there is no such directory. -/
def entries (t : FileTree) (dir : Path) : Except Failure (List FileTree.Listed) := do
  if ← Package.access dir (t.isDirectory dir) then lift (t.list dir) else return []

/-- The directories in a directory, in the order of their names. -/
def subdirectories (t : FileTree) (dir : Path) : Except Failure (List Path) := do
  let dirs ← (← entries t dir).filterM fun l => lift (l.isDirectory t)
  return dirs.map FileTree.Listed.path

/-- The first of some entries that satisfies a test. -/
def firstM (test : FileTree.Listed → Except Failure Bool) :
    List FileTree.Listed → Except Failure (Option FileTree.Listed)
  | [] => .ok none
  | l :: ls => do
    if ← test l then return some l
    firstM test ls

/-- Whether an entry is a schema file. -/
def isSchema (t : FileTree) (l : FileTree.Listed) : Except Failure Bool := do
  let isFile ← lift (l.isFile t)
  return isFile && schemaExtensions.contains l.path.extension

/-- The first schema file in a directory. -/
def firstSchema (t : FileTree) (dir : Path) : Except Failure (Option Path) := do
  return (← firstM (isSchema t) (← entries t dir)).map FileTree.Listed.path

/-- What an entry of a directory leads to, for the listing of a package. -/
inductive Kind where
  /-- A directory. -/
  | directory
  /-- A file. -/
  | file
  /-- Anything else, or nothing. -/
  | other
  deriving DecidableEq, Repr

/-- What an entry of a directory leads to. -/
def kindOf (t : FileTree) (l : FileTree.Listed) : Except Failure Kind := do
  if ← lift (l.isDirectory t) then return .directory
  if ← lift (l.isFile t) then return .file
  return .other

/-- The files and directories of a package. -/
structure Listing where
  /-- The files. -/
  files : List Path := []
  /-- The directories. -/
  directories : List Path := []

/-- One listing after another. -/
def Listing.append (a b : Listing) : Listing :=
  ⟨a.files ++ b.files, a.directories ++ b.directories⟩

/-- The place without links of a directory that a path leads to. -/
def realPlace (t : FileTree) (p : Path) : Place :=
  (t.canonical p).names

/-- Lists what lies below a directory. `ancestors` holds the places of the directory and of those
on the way to it; a directory at one of them is listed and not entered. The budget bounds the
number of directories that are on the way at once. -/
def walk (t : FileTree) : Nat → List Place → Path → Except Failure Listing
  | 0, _, _ => .ok {}
  | budget + 1, ancestors, dir => do
    let listed ← lift (t.list dir)
    let kinds ← listed.mapM fun l => do return (l.path, ← kindOf t l)
    let directories := kinds.filterMap fun (p, k) => if k == .directory then some p else none
    let files := kinds.filterMap fun (p, k) => if k == .file then some p else none
    let entered := directories.filter fun p => !ancestors.contains (realPlace t p)
    -- the last directory of a directory is entered first, which decides which fault is met first
    let inner ← entered.reverse.mapM fun p => walk t budget (realPlace t p :: ancestors) p
    return inner.foldl Listing.append ⟨files, directories⟩

/-- Lists all files and directories below the root of a package, in order. -/
def listing (t : FileTree) (root : Path) : Except Failure Listing := do
  if ← Package.access root (t.isDirectory root) then
    let l ← walk t (t.directoryCount + 1) [realPlace t root] root
    return ⟨Path.sort l.files, Path.sort l.directories⟩
  else return {}

/-- The names of the files and of the directories in the root of a package, in order. -/
def topLevel (t : FileTree) (root : Path) : Except Failure (List String × List String) := do
  let listed ← entries t root
  let files ← listed.filterM fun l => lift (l.isFile t)
  let dirs ← listed.filterM fun l => lift (l.isDirectory t)
  return (files.map FileTree.Listed.name, dirs.map FileTree.Listed.name)

/-- The message for an entity without a manifest file. -/
def missingManifest (kind : String) : String :=
  "Missing " ++ kind ++ " manifest file"

/-- Loads the entity that a folder stands for. -/
def entity {α : Type} (t : FileTree) (kind : String) (shape : RecordShape Shape)
    (build : Fields → α) (dir : Path) : Except Failure (Entity α) := do
  let name := dir.name
  let manifestPath := dir.entry (name ++ ".json")
  if ← Package.access manifestPath (t.isFile manifestPath) then
    let document ← Document.read t .json manifestPath
    match document.fields? with
    | none => return { name, dir, manifestPath, error := document.error? }
    | some fields =>
      let (manifest, fieldIssues) ← Manifest.load shape build fields
      return { name, dir, manifestPath, data := some fields, fieldIssues,
               manifest := some manifest }
  else return { name, dir, manifestPath, error := some (missingManifest kind) }

/-- Loads the agents. -/
def agents (t : FileTree) (root : Path) : Except Failure (List (Entity AgentManifest)) := do
  (← subdirectories t (root.entry "agents")).mapM
    (entity t "agent" Manifest.agentShape Manifest.agent)

/-- Loads a toolset. -/
def toolset (t : FileTree) (dir : Path) : Except Failure Toolset := do
  let entity ← entity t "toolset" Manifest.toolsetShape Manifest.toolsetManifest dir
  let schemaDir := dir.entry schemaDirName
  return { entity, schemaDir, detectedSchema := ← firstSchema t schemaDir }

/-- Loads the toolsets. -/
def toolsets (t : FileTree) (root : Path) : Except Failure (List Toolset) := do
  (← subdirectories t (root.entry "toolsets")).mapM (toolset t)

/-- Loads the evaluations. -/
def evaluations (t : FileTree) (root : Path) :
    Except Failure (List (Entity EvaluationManifest)) := do
  (← subdirectories t (root.entry "evaluations")).mapM
    (entity t "evaluation" Manifest.evaluationShape Manifest.evaluation)

/-- Loads the script tools. -/
def scriptTools (t : FileTree) (root : Path) :
    Except Failure (List (Entity ScriptToolManifest)) := do
  (← subdirectories t (root.entry "tools")).mapM
    (entity t "script tool" Manifest.scriptToolShape Manifest.scriptTool)

/-- Reads an instruction, if its file exists. -/
def instruction? (t : FileTree) (agentName : String) (path : Path) :
    Except Failure (Option Instruction) := do
  if ← Package.access path (t.isFile path) then
    return some (← Markup.parseFile t agentName path)
  else return none

/-- Reads the instructions of the agents and the global one. -/
def instructions (t : FileTree) (root : Path) (agents : List (Entity AgentManifest)) :
    Except Failure (List Instruction) := do
  let own ← agents.mapM fun a => instruction? t a.name (a.dir.entry instructionName)
  let whole ← instruction? t globalAgentName (root.entry globalInstructionName)
  return (own ++ [whole]).filterMap id

/-- Reads the environment file, if it exists. -/
def environment? (t : FileTree) (root : Path) : Except Failure (Option Environment) := do
  let path := root.entry environmentName
  if ← Package.access path (t.isFile path) then
    return some ⟨path, ← Document.read t .json path⟩
  else return none

/-- What the manifest of a package gives. -/
structure AppPart where
  /-- What reading the file gave, if there is one. -/
  document : Option Document := none
  /-- The manifest. -/
  manifest : Option AppManifest := none
  /-- The values that did not fit. -/
  fieldIssues : List FieldIssue := []

/-- Reads the manifest of a package. -/
def appPart (t : FileTree) (path? : Option Path) : Except Failure AppPart := do
  match path? with
  | none => return {}
  | some path =>
    let document ← Document.readByExtension t path
    match document.fields? with
    | none => return { document := some document }
    | some fields =>
      let (manifest, fieldIssues) ← Manifest.load Manifest.appShape Manifest.app fields
      return { document := some document, manifest := some manifest, fieldIssues }

end Index

/-- The model of the package whose root directory, free of links, is `root`. -/
def Package.index (t : FileTree) (root : Path) : Except Failure Package := do
  let appYaml := root.entry appYamlName
  let appJson := root.entry appJsonName
  let hasAppYaml ← Package.access appYaml (t.isFile appYaml)
  let hasAppJson ← Package.access appJson (t.isFile appJson)
  let app ← Index.appPart t
    (if hasAppYaml then some appYaml else if hasAppJson then some appJson else none)
  let listing ← Index.listing t root
  let (topLevelFiles, topLevelDirs) ← Index.topLevel t root
  let agents ← Index.agents t root
  let toolsets ← Index.toolsets t root
  let evaluations ← Index.evaluations t root
  let scriptTools ← Index.scriptTools t root
  let instructions ← Index.instructions t root agents
  let guardrailDirs ← Index.subdirectories t (root.entry "guardrails")
  let environment ← Index.environment? t root
  return { root, hasAppYaml, hasAppJson, document := app.document, manifest := app.manifest,
           fieldIssues := app.fieldIssues, files := listing.files,
           directories := listing.directories, topLevelFiles, topLevelDirs, agents, toolsets,
           evaluations, scriptTools, instructions, guardrailDirs, environment,
           inventory := Inventory.build agents toolsets scriptTools }

/-- The model of the package in the directory that `path` leads to from `cwd`. -/
def Package.build (t : FileTree) (cwd path : Path) : Except Failure Package := do
  Package.index t (← t.resolve cwd path)

end AgentPackage
