import AgentPackage.Package.Model

/-!
# Finding packages

A directory with a manifest file is the root of a package. Roots are found upward from a path
inside a package, and downward from a directory that holds packages. Downward, links are not
followed and directories of generated or foreign files are left out.
-/

namespace AgentPackage.Discovery

/-- The names of directories in which no packages are looked for. -/
def excludedNames : List String := ["node_modules", ".git", "dist", "out"]

/-- Whether a directory holds a manifest file of a package. -/
def hasManifest (t : FileTree) (dir : Path) : Except Failure Bool := do
  let yaml := dir.entry appYamlName
  if ← Package.access yaml (t.isFile yaml) then return true
  let json := dir.entry appJsonName
  Package.access json (t.isFile json)

/-- The root of the package that a path lies in: the nearest directory with a manifest file. -/
def rootOf? (t : FileTree) (cwd path : Path) : Except Failure (Option Path) := do
  let path ← t.resolve cwd path
  let isDirectory ← Package.access path (t.isDirectory path)
  (if isDirectory then path else path.parent).upward.findM? (hasManifest t)

/-- Whether packages are looked for in an entry of a directory. -/
def isSearched (l : FileTree.Listed) : Bool :=
  FileTree.isFolder l.entry && !excludedNames.contains l.name

/-- A directory and the directories below it in which packages are looked for. The budget bounds
how deep they lie. -/
def searched (t : FileTree) : Nat → Path → List Path
  | 0, _ => []
  | budget + 1, dir =>
    match t.list dir with
    | .error _ => []
    | .ok listed => dir :: (listed.filter isSearched).flatMap fun l => searched t budget l.path

/-- The roots of the packages in a directory, in order. -/
def rootsBelow (t : FileTree) (cwd base : Path) : Except Failure (List Path) := do
  let base ← t.resolve cwd base
  let roots ← (searched t (t.directoryCount + 1) base).filterM (hasManifest t)
  return Path.sort roots

end AgentPackage.Discovery
