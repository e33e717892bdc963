import AgentPackage.FileTree.Resolve

/-!
# Reading a file tree from the disk

Takes up parts of the disk as a file tree. What cannot be read is left out. The target of a link is
taken up as the path that the link leads to in the end, together with what stands there.
-/

namespace AgentPackage.Disk

/-- What was read of the disk. -/
structure Reading where
  /-- What was read, as a file tree. -/
  tree : FileTree := {}
  /-- The directories that were read with all that lies below them, or are being read. -/
  complete : List Path := []

/-- How a directory is read. -/
structure Scope where
  /-- Whether the content of files is read. -/
  contents : Bool := true
  /-- Whether directories are entered to which a link leads. -/
  throughLinks : Bool := true
  /-- The names of directories that are not entered. -/
  excludedNames : List String := []

/-- What is read with all that lies below it. -/
def Scope.everything : Scope := {}

/-- The name of a file on the disk. -/
def named (path : String) : IO.FS.DirEntry := ⟨"/", path⟩

/-- The target of a link that leads nowhere: no file has this name. -/
def nowhere : String := "\x00"

/-- Takes up what stands at a path, links not being followed. -/
def Reading.add (r : Reading) (path : Path) (entry : Entry) : Reading :=
  if (r.tree.find? path.names).isSome then r else { r with tree := r.tree.put path.names entry }

/-- The target of the link at a path: where it leads to in the end. A link that leads back to
itself gets itself as its target. -/
def linkTarget (path : Path) : IO String := do
  match ← (IO.FS.realPath path.text).toBaseIO with
  | .ok target => return target.toString
  | .error (.noFileOrDirectory ..) => return nowhere
  | .error _ => return path.text

/-- What stands at a path, links not being followed. -/
def entryAt? (contents : Bool) (path : Path) : IO (Option Entry) := do
  match ← (named path.text).path.symlinkMetadata.toBaseIO with
  | .error _ => return none
  | .ok found =>
    match found.type with
    | .dir => return some .directory
    | .symlink => return some (.link (← linkTarget path))
    | .file =>
      if !contents then return some (.file .empty)
      match ← (IO.FS.readBinFile path.text).toBaseIO with
      | .ok content => return some (.file content)
      | .error _ => return none
    | .other => return none

/-- The paths of the entries of a directory. -/
def entriesOf (dir : Path) : IO (List Path) := do
  match ← (named dir.text).path.readDir.toBaseIO with
  | .ok found => return found.toList.map fun e => dir.entry e.fileName
  | .error _ => return []

/-- Reads what stands on the way to a path and at the path itself. `budget` bounds the number of
links on the way; a link leads to a path without links, so that more than one link is met only
where the disk changes. -/
def readTo (contents : Bool) (budget : Nat) (path : Path) (r : Reading) : IO Reading := do
  let mut r := r
  for onTheWay in path.upward.reverse.drop 1 do
    match ← entryAt? contents onTheWay with
    | none => return r
    | some (.link target) =>
      r := r.add onTheWay (.link target)
      let rest := path.names.drop onTheWay.names.length
      match budget with
      | 0 => return r
      | budget + 1 =>
        return ← readTo contents budget ((Path.ofString target).join ⟨.relative, rest⟩) r
    | some entry => r := r.add onTheWay entry
  return r

/-- Reads what stands at a path and what lies below it. `budget` bounds how deep that is. -/
def readBelow (scope : Scope) (budget : Nat) (path : Path) (r : Reading) : IO Reading := do
  match budget with
  | 0 => return r
  | budget + 1 =>
    match ← entryAt? scope.contents path with
    | none => return r
    | some (.link target) =>
      let mut r := r.add path (.link target)
      if target != nowhere && target != path.text then
        let target := Path.ofString target
        r ← readTo scope.contents linkLimit target r
        if scope.throughLinks then r ← readBelow scope budget target r
      return r
    | some .directory =>
      if r.complete.contains path then return r
      let mut r := { r.add path .directory with complete := path :: r.complete }
      for entry in ← entriesOf path do
        if !scope.excludedNames.contains entry.name then r ← readBelow scope budget entry r
      return r
    | some entry => return r.add path entry

/-- Reads what stands on the way to a path, what it leads to, and what lies below that. -/
def readAll (scope : Scope) (path : Path) (r : Reading) : IO Reading := do
  let r ← readTo scope.contents linkLimit path r
  readBelow scope pathByteLimit (r.tree.canonical path) r

/-- Reads the files of some names in a directory and in those it lies in. -/
def readUpward (names : List String) (dir : Path) (r : Reading) : IO Reading := do
  let mut r := r
  for place in dir.upward do
    for name in names do
      r ← readTo true linkLimit (place.entry name) r
  return r

end AgentPackage.Disk
