import AgentPackage.FileTree.Resolve
import AgentPackage.Text.Lines
import AgentPackage.Text.Utf8

/-!
# Reading files and directories

Text files hold UTF-8; every kind of line break is read as a line feed. Directories are listed
by name. Both follow links.
-/

namespace AgentPackage

/-- A path that could not be followed or read, and why. -/
structure AccessFault where
  /-- Why. -/
  cause : AccessError
  /-- The text of the path. -/
  path : String
  deriving DecidableEq, Repr

/-- The wording of an access fault. -/
def AccessFault.message (f : AccessFault) : String :=
  f.cause.message f.path

/-- Why a text file cannot be read. -/
inductive ReadFault where
  /-- The path cannot be followed, or leads to a directory. -/
  | access (fault : AccessFault)
  /-- The bytes are not UTF-8. -/
  | encoding (fault : Text.Utf8.Fault)
  /-- The path holds a NUL character. -/
  | unnameable
  deriving Repr

/-- The wording of a reading fault. -/
def ReadFault.message : ReadFault → String
  | .access fault => fault.message
  | .encoding fault => fault.message
  | .unnameable => "embedded null byte"

namespace FileTree

/-- Gives an access error together with its path. -/
def withPath {α : Type} (p : Path) : Except AccessError α → Except AccessFault α
  | .ok a => .ok a
  | .error e => .error ⟨e, p.text⟩

/-- The bytes of the file that an absolute path leads to; `shown` is the path in messages. -/
def readBytes (t : FileTree) (shown p : Path) : Except ReadFault ByteArray :=
  if !isNameable p then .error .unnameable
  else match t.stat p with
    | .ok (.file content) => .ok content
    | .ok _ => .error (.access ⟨.isADirectory, shown.text⟩)
    | .error e => .error (.access ⟨e, shown.text⟩)

/-- The characters of the text file that an absolute path leads to, with line feeds for line
breaks; `shown` is the path in messages. -/
def readText (t : FileTree) (shown p : Path) : Except ReadFault (List Char) := do
  let content ← t.readBytes shown p
  match Text.Utf8.decode content.toList with
  | .ok cs => return Text.normalizeBreaks cs
  | .error f => throw (.encoding f)

/-- An entry of a directory, as it is listed. -/
structure Listed where
  /-- The name of the entry. -/
  name : String
  /-- The path of the entry. -/
  path : Path
  /-- What stands there, links not being followed. -/
  entry : Entry

/-- The entries of the directory that a path leads to, in the order of their names. -/
def list (t : FileTree) (dir : Path) : Except AccessFault (List Listed) := do
  let place ← withPath dir (t.locate dir)
  match t.find? place with
  | some .directory =>
    return (t.childNames place).filterMap fun name =>
      (t.find? (place ++ [name])).map fun e => ⟨name, dir.entry name, e⟩
  | some _ => throw ⟨.notADirectory, dir.text⟩
  | none => throw ⟨.notFound, dir.text⟩

/-- Whether what a listed entry leads to satisfies `test`. A link to nothing leads to nothing;
a link that cannot be followed is an error. -/
def Listed.leadsTo (t : FileTree) (test : Entry → Bool) (l : Listed) : Except AccessFault Bool :=
  match l.entry with
  | .link _ =>
    match t.stat l.path with
    | .ok e => .ok (test e)
    | .error .notFound => .ok false
    | .error e => .error ⟨e, l.path.text⟩
  | e => .ok (test e)

/-- Whether a listed entry leads to a directory. -/
def Listed.isDirectory (t : FileTree) (l : Listed) : Except AccessFault Bool :=
  l.leadsTo t isFolder

/-- Whether a listed entry leads to a file. -/
def Listed.isFile (t : FileTree) (l : Listed) : Except AccessFault Bool :=
  l.leadsTo t isRegular

end FileTree

end AgentPackage
