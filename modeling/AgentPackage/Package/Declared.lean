import AgentPackage.FileTree.Path
import AgentPackage.Text.Blank

/-!
# Paths declared in manifests

Paths as they are written in manifests: with slashes or backslashes, relative to the root of the
package or absolute. They are resolved name by name, without regard to links.
-/

namespace AgentPackage.Declared

/-- A text with slashes for backslashes. -/
def withSlashes (s : String) : String :=
  String.ofList (s.toList.map fun c => if c == '\\' then '/' else c)

/-- The names of a path, empty ones left out. -/
def segments (s : String) : List String :=
  (Path.splitSlashes (withSlashes s)).filter fun n => n != ""

/-- The first name of a path. -/
def topLevel? (s : String) : Option String :=
  (segments s).head?

/-- The number of names of a path behind the first one. -/
def depth (s : String) : Nat :=
  (segments s).length - 1

/-- The path of `target` seen from `root`, with slashes. -/
def relative (root target : Path) : String :=
  withSlashes (root.relativeText target)

/-- The path that a manifest declares, seen from the root of its package. -/
def resolve (root : Path) (declared : String) : Path :=
  (root.child (withSlashes (Text.trim declared))).normalize

/-- The least length above which a text in one line is taken for an instruction and not for the
path of one. -/
def inlineLength : Nat := 20

/-- Whether the value of a global instruction is likely the text itself and not a path: it has
several lines, or it is long, does not end like a text file and holds no slash. -/
def isLikelyInline (value : String) : Bool :=
  let cs := Text.trimChars value.toList
  if cs.isEmpty then false
  else if cs.contains '\n' || cs.contains '\r' then true
  else if ".txt".toList.isSuffixOf cs || cs.contains '/' then false
  else inlineLength < cs.length

end AgentPackage.Declared
