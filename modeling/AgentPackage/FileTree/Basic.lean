import AgentPackage.FileTree.Path

/-!
# File trees

A file tree is a finite map from rows of names, seen from the root directory, to what stands
there: a file with its bytes, a directory, or a symbolic link with its target. The root is a
directory. Operations that follow links are in `FileTree.Resolve`.
-/

namespace AgentPackage

/-- What stands at a place of a file tree. -/
inductive Entry where
  /-- A regular file with its content. -/
  | file (content : ByteArray)
  /-- A directory. -/
  | directory
  /-- A symbolic link. -/
  | link (target : String)
  deriving Inhabited

/-- A place in a file tree: the names on the way from the root directory. -/
abbrev Place := List String

/-- The files, directories and links that exist. -/
structure FileTree where
  /-- What stands at each place that exists, the root directory apart. -/
  entries : List (Place × Entry) := []
  deriving Inhabited

namespace FileTree

/-- What stands at a place, links not being followed. -/
def find? (t : FileTree) (p : Place) : Option Entry :=
  if p.isEmpty then some .directory else t.entries.lookup p

/-- Whether a directory stands at a place. -/
def hasDirectory (t : FileTree) (p : Place) : Bool :=
  match t.find? p with
  | some .directory => true
  | _ => false

/-- Removes what stands at a place and everything below it. -/
def remove (t : FileTree) (p : Place) : FileTree :=
  ⟨t.entries.filter fun e => !p.isPrefixOf e.1⟩

/-- Puts an entry at a place, in place of what stood there. -/
def put (t : FileTree) (p : Place) (e : Entry) : FileTree :=
  if (t.entries.lookup p).isSome then
    ⟨t.entries.map fun x => if x.1 == p then (p, e) else x⟩
  else ⟨t.entries ++ [(p, e)]⟩

/-- Makes a directory at a place where nothing stands. -/
def makeDirectory (t : FileTree) (p : Place) : FileTree :=
  if (t.find? p).isSome then t else t.put p .directory

/-- Makes a directory at a place and at every place on the way to it, where nothing stands. -/
def makeDirectories (t : FileTree) (p : Place) : FileTree :=
  ((List.range p.length).map fun i => p.take (i + 1)).foldl makeDirectory t

/-- The names of the entries of the directory at a place, in order. -/
def childNames (t : FileTree) (p : Place) : List String :=
  Sorting.sort (fun a b => decide (a ≤ b)) <| t.entries.filterMap fun e =>
    if e.1.dropLast == p then e.1.getLast? else none

/-- How many links the tree holds. -/
def linkCount (t : FileTree) : Nat :=
  t.entries.countP fun e => match e.2 with | .link _ => true | _ => false

/-- How many directories the tree holds, the root included. -/
def directoryCount (t : FileTree) : Nat :=
  t.entries.countP (fun e => match e.2 with | .directory => true | _ => false) + 1

end FileTree

end AgentPackage
