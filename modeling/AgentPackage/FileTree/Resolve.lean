import AgentPackage.FileTree.Basic
import AgentPackage.Text.Quoted

/-!
# Following links

How paths find their way through a file tree. `locate` follows links as opening a file does,
and fails at the first name that cannot be passed. `canonical` removes links from a path
whether or not what it names exists. Both take at most a bounded number of links: the first by
a limit of forty, the second because a link that leads back to itself is left as it stands.
-/

namespace AgentPackage

/-- Why a path cannot be followed or read. -/
inductive AccessError where
  /-- Nothing stands there. -/
  | notFound
  /-- A name on the way is no directory. -/
  | notADirectory
  /-- A directory was to be read as a file. -/
  | isADirectory
  /-- A name is too long for any file. -/
  | nameTooLong
  /-- More links were met than may be followed. -/
  | linkLoop
  deriving DecidableEq, Repr

/-- The number of an access error. -/
def AccessError.number : AccessError → Nat
  | .notFound => 2
  | .notADirectory => 20
  | .isADirectory => 21
  | .nameTooLong => 36
  | .linkLoop => 40

/-- The wording of an access error without its path. -/
def AccessError.reason : AccessError → String
  | .notFound => "No such file or directory"
  | .notADirectory => "Not a directory"
  | .isADirectory => "Is a directory"
  | .nameTooLong => "File name too long"
  | .linkLoop => "Too many levels of symbolic links"

/-- The wording of an access error at a path. -/
def AccessError.message (e : AccessError) (path : String) : String :=
  "[Errno " ++ toString e.number ++ "] " ++ e.reason ++ ": " ++ Text.quoted path

/-- The greatest length of a name, in bytes. -/
def nameByteLimit : Nat := 255

/-- The greatest length of the text of a path, in bytes. -/
def pathByteLimit : Nat := 4095

/-- How many links are followed on the way to one file. -/
def linkLimit : Nat := 40

namespace FileTree

/-- The names that a link with the given target puts in front of the names that are left. A
final slash asks for a directory, as the name `.` does. -/
def targetNames (target : String) : List String :=
  let parts := Path.splitSlashes target
  let names := parts.filter fun n => n != "" && n != "."
  if parts.getLast? == some "" || parts.getLast? == some "." then names ++ ["."] else names

/-- Follows the names `rest` from the place `here`, which holds a directory. Behind a link, that
of the last name only if `followLast` is set, `follow` goes on from where its target starts. The
result is the place reached, which has no link on its way. -/
def passNames (t : FileTree) (followLast : Bool)
    (follow : Place → List String → Except AccessError Place) (here : Place) :
    List String → Except AccessError Place
  | [] => .ok here
  | name :: rest =>
    if name == "." then passNames t followLast follow here rest
    else if name == ".." then passNames t followLast follow here.dropLast rest
    else if nameByteLimit < name.utf8ByteSize then .error .nameTooLong
    else
      match t.find? (here ++ [name]) with
      | none => .error .notFound
      | some .directory => passNames t followLast follow (here ++ [name]) rest
      | some (.file _) =>
        if rest.isEmpty then .ok (here ++ [name]) else .error .notADirectory
      | some (.link target) =>
        if rest.isEmpty && !followLast then .ok (here ++ [name])
        else
          let start := if Path.anchorOf target == .relative then here else []
          follow start (targetNames target ++ rest)

/-- Follows names from a place that holds a directory, and at most `budget` links on the way. -/
def locateFrom (t : FileTree) (followLast : Bool) :
    Nat → Place → List String → Except AccessError Place
  | 0 => t.passNames followLast fun _ _ => .error .linkLoop
  | budget + 1 => t.passNames followLast (locateFrom t followLast budget)

/-- The path that `p` denotes when `cwd` is the working directory. -/
def absolute (cwd p : Path) : Path :=
  if p.isAbsolute then p else cwd.join p

/-- The place that an absolute path leads to, links being followed. -/
def locate (t : FileTree) (p : Path) : Except AccessError Place :=
  if pathByteLimit < p.text.utf8ByteSize then .error .nameTooLong
  else t.locateFrom true linkLimit [] p.names

/-- What stands at the end of an absolute path, links being followed. -/
def stat (t : FileTree) (p : Path) : Except AccessError Entry := do
  let place ← t.locate p
  match t.find? place with
  | some e => return e
  | none => throw .notFound

/-- Removes the links from the parts `rest` of a path, seen from the place `here`. `active` holds
the links that are being removed, and `enter` removes those from the target of one more. When a link
leads back to itself, the path as it stands from that link on is the error; what is left of the way
counts from the root if two slashes stand in front of it. -/
def removeLinks (t : FileTree) (enter : List Place → Place → List String → Except Path Place)
    (active : List Place) (here : Place) : List String → Except Path Place
  | [] => .ok here
  | name :: rest =>
    if name == "" || name == "." then removeLinks t enter active here rest
    else if name == ".." then removeLinks t enter active here.dropLast rest
    else
      match t.find? (here ++ [name]) with
      | some (.link target) =>
        let link := here ++ [name]
        let left := "/".intercalate rest
        if active.contains link then .error (Path.child ⟨.root, link⟩ left)
        else
          let start := if Path.anchorOf target == .relative then here else []
          match enter (link :: active) start (Path.splitSlashes target) with
          | .ok place => removeLinks t enter active place rest
          | .error path => .error (path.child left)
      | _ => removeLinks t enter active (here ++ [name]) rest

/-- Removes links from the parts of a path; `budget` is the number of links that are not being
removed already, so that none is left to enter when it is used up. -/
def canonicalFrom (t : FileTree) : Nat → List Place → Place → List String → Except Path Place
  | 0 => t.removeLinks fun active _ _ => .error ⟨.root, active.headD []⟩
  | budget + 1 => t.removeLinks (canonicalFrom t budget)

/-- An absolute path without links, without `.` and without `..`. -/
def canonical (t : FileTree) (p : Path) : Path :=
  match t.canonicalFrom t.linkCount [] [] p.names with
  | .ok place => ⟨.root, place⟩
  | .error path => path.normalize

/-- Whether the text of a path can name a file at all: no name holds a NUL character. -/
def isNameable (p : Path) : Bool :=
  p.names.all fun n => n.toList.all fun c => c.toNat != 0

/-- Whether what stands at `p` satisfies `test`. A path that cannot be followed leads to nothing,
except that a name that is too long is an error. -/
def probe (t : FileTree) (test : Entry → Bool) (p : Path) : Except AccessError Bool :=
  if !isNameable p then .ok false
  else match t.stat p with
    | .ok e => .ok (test e)
    | .error .nameTooLong => .error .nameTooLong
    | .error _ => .ok false

/-- Whether an entry is a regular file. -/
def isRegular : Entry → Bool
  | .file _ => true
  | _ => false

/-- Whether an entry is a directory. -/
def isFolder : Entry → Bool
  | .directory => true
  | _ => false

/-- Whether a path leads to a file. -/
def isFile (t : FileTree) (p : Path) : Except AccessError Bool :=
  t.probe isRegular p

/-- Whether a path leads to a directory. -/
def isDirectory (t : FileTree) (p : Path) : Except AccessError Bool :=
  t.probe isFolder p

/-- Whether a path leads to anything. -/
def pathExists (t : FileTree) (p : Path) : Except AccessError Bool :=
  t.probe (fun _ => true) p

end FileTree

end AgentPackage
