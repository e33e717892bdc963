import AgentPackage.Sorting
import AgentPackage.Text.LowerCase
import AgentPackage.Text.Split

/-!
# Paths

A path is a row of names behind an anchor: nothing, for a relative path, one slash, or exactly
two slashes, which are kept apart from one. Reading a path collapses repeated slashes and drops
the name `.`; the name `..` is kept, since what it means depends on the links on the way, and
removed only by lexical normalization.
-/

namespace AgentPackage

/-- What stands before the first name of a path. -/
inductive Anchor where
  /-- Nothing: the path is relative. -/
  | relative
  /-- One slash. -/
  | root
  /-- Exactly two slashes. -/
  | doubleRoot
  deriving DecidableEq, Repr, Inhabited

/-- A path of a file or directory. -/
structure Path where
  /-- What stands before the first name. -/
  anchor : Anchor
  /-- The names, none of them empty or `.`. -/
  names : List String
  deriving DecidableEq, Repr, Inhabited

namespace Path

/-- The parts of a text between slashes. -/
def splitSlashes (s : String) : List String :=
  (Text.split (· == '/') s.toList).map String.ofList

/-- The anchor with which a text starts. -/
def anchorOf (s : String) : Anchor :=
  match s.toList with
  | '/' :: '/' :: '/' :: _ => .root
  | '/' :: '/' :: _ => .doubleRoot
  | '/' :: _ => .root
  | _ => .relative

/-- The path that a text denotes. -/
def ofString (s : String) : Path :=
  ⟨anchorOf s, (splitSlashes s).filter fun n => n != "" && n != "."⟩

/-- The text of an anchor. -/
def anchorText : Anchor → String
  | .relative => ""
  | .root => "/"
  | .doubleRoot => "//"

/-- The text of a path; a relative path without names is `.`. -/
def text (p : Path) : String :=
  match p.anchor, p.names with
  | .relative, [] => "."
  | a, names => anchorText a ++ "/".intercalate names

/-- Whether a path has an anchor. -/
def isAbsolute (p : Path) : Bool :=
  p.anchor != .relative

/-- `q` seen from `p`: `q` itself if it is absolute, else the names of `q` behind `p`. -/
def join (p q : Path) : Path :=
  if q.isAbsolute then q else ⟨p.anchor, p.names ++ q.names⟩

/-- The path that the text `s` denotes, seen from `p`. -/
def child (p : Path) (s : String) : Path :=
  p.join (ofString s)

/-- The entry `name` of the directory `p`. -/
def entry (p : Path) (name : String) : Path :=
  ⟨p.anchor, p.names ++ [name]⟩

/-- The path without its last name. -/
def parent (p : Path) : Path :=
  ⟨p.anchor, p.names.dropLast⟩

/-- The path itself and those it lies below, the nearest first. -/
def upward (p : Path) : List Path :=
  (List.range (p.names.length + 1)).reverse.map fun n => ⟨p.anchor, p.names.take n⟩

/-- The last name of a path, empty if there is none. -/
def name (p : Path) : String :=
  p.names.getLastD ""

/-- The part of a name from its last dot on, if that dot is neither its first nor its last
character. -/
def suffixOf (s : String) : String :=
  let back := s.toList.reverse
  let ending := back.takeWhile (· != '.')
  match back.dropWhile (· != '.') with
  | '.' :: _ :: _ => if ending.isEmpty then "" else String.ofList ('.' :: ending.reverse)
  | _ => ""

/-- The lower-cased suffix of the last name of a path. -/
def extension (p : Path) : String :=
  Text.lower (suffixOf p.name)

/-- Takes one more name into account: `..` removes the name before it, or is kept in front of a
relative path and dropped behind an anchor. `back` holds the names before, latest first. -/
def normalStep (absolute : Bool) (back : List String) (name : String) : List String :=
  if name == ".." then
    match back with
    | [] => if absolute then [] else [".."]
    | last :: rest => if last == ".." then ".." :: last :: rest else rest
  else name :: back

/-- The names of a path with each `..` resolved against the name before it. -/
def normalNames (absolute : Bool) (names : List String) : List String :=
  (names.foldl (normalStep absolute) []).reverse

/-- The path with each `..` resolved against the name before it, without regard to links. -/
def normalize (p : Path) : Path :=
  ⟨p.anchor, normalNames p.isAbsolute p.names⟩

/-- The names of `p` behind those of `root`, if `p` starts with the names of `root` and has the
same anchor. -/
def relativeTo? (p root : Path) : Option (List String) :=
  if p.anchor == root.anchor && root.names.isPrefixOf p.names then
    some (p.names.drop root.names.length)
  else none

/-- The length of the longest common beginning of two rows of names. -/
def commonLength : List String → List String → Nat
  | a :: as, b :: bs => if a == b then commonLength as bs + 1 else 0
  | _, _ => 0

/-- The text of `target` seen from `start`, both absolute: one `..` for each name of `start`
that is left, then the names of `target` behind the common ones. -/
def relativeText (start target : Path) : String :=
  let s := start.normalize.names
  let t := target.normalize.names
  let n := commonLength s t
  let names := List.replicate (s.length - n) ".." ++ t.drop n
  if names.isEmpty then "." else "/".intercalate names

/-- The order of anchors, in which paths are listed. -/
def anchorRank : Anchor → Nat
  | .relative => 0
  | .root => 1
  | .doubleRoot => 2

/-- Whether one row of names comes before another or equals it, name by name. -/
def namesLe : List String → List String → Bool
  | [], _ => true
  | _ :: _, [] => false
  | a :: as, b :: bs => if a == b then namesLe as bs else decide (a < b)

/-- Whether `p` is listed before `q` or equals it: paths are ordered as rows of names. -/
def le (p q : Path) : Bool :=
  if p.anchor == q.anchor then namesLe p.names q.names
  else anchorRank p.anchor < anchorRank q.anchor

/-- The paths in order. -/
def sort (ps : List Path) : List Path :=
  Sorting.sort le ps

/-- The normal form of a normal form is itself when there is no `..` to resolve. -/
theorem normalNames_of_notMem {absolute : Bool} {names : List String} (h : ".." ∉ names) :
    normalNames absolute names = names := by
  have key : ∀ (ns back : List String), ".." ∉ ns →
      ns.foldl (normalStep absolute) back = ns.reverse ++ back := by
    intro ns
    induction ns with
    | nil => simp
    | cons n ns ih =>
      intro back hn
      simp only [List.mem_cons, not_or] at hn
      have hne : (n == "..") = false := by simpa using fun h => hn.1 h.symm
      simp [normalStep, hne, ih _ hn.2]
  simp [normalNames, key names [] h]

end Path

end AgentPackage
