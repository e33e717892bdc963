import AgentPackage.FileTree.Resolve

/-!
# Writing and removing

Changes of a file tree by paths. Writing follows links and makes the directories on the way to a
file; removing takes away a link itself and a directory with everything below it.
-/

namespace AgentPackage.FileTree

/-- The place that a path names in its directory, the links on the way to the directory being
followed and the last name being left as it is. -/
def placeOf (t : FileTree) (p : Path) : Place :=
  (t.canonical p.parent).names ++ p.names.drop (p.names.length - 1)

/-- Stores an entry under an absolute path. A file is stored where the path leads to, a link or a
directory where it names. -/
def store (t : FileTree) (p : Path) (e : Entry) : Except AccessError FileTree :=
  let place := match e with
    | .file _ => (t.canonical p).names
    | _ => t.placeOf p
  match e with
  | .directory => .ok (t.makeDirectories place)
  | _ =>
    if t.hasDirectory place then .error .isADirectory
    else .ok ((t.makeDirectories place.dropLast).put place e)

/-- Removes what stands under an absolute path. -/
def delete (t : FileTree) (p : Path) : Except AccessError FileTree :=
  let place := t.placeOf p
  match t.find? place with
  | none => .error .notFound
  | some _ => .ok (t.remove place)

end AgentPackage.FileTree
