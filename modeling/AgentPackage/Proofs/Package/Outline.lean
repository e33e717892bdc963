import AgentPackage.Package.Index
import AgentPackage.Proofs.Except
import AgentPackage.Proofs.FileTree.Outline

/-!
# Indexing by the outline

Which folders, files and schemas a package has is seen in the outline of the file tree. Other
content in one file therefore changes only the parts of a model that are read from that file.

## Main results

* `subdirectories_withContent`, `firstSchema_withContent`, `listing_withContent`: what is listed of
  a package does not depend on the content of files;
* `entity_withContent`: an entity whose manifest is not in the file is the same;
* `Document.read_withContent`, `Document.lineContaining_withContent`: nor do documents and lines of
  other files change.
-/

namespace Except

variable {ε α β γ : Type}

/-- A result that is mapped and then gone on with. -/
theorem map_bind (f : α → β) (x : Except ε α) (g : β → Except ε γ) :
    x.map f >>= g = x >>= fun a => g (f a) := by
  cases x <;> rfl

/-- Filtering the images of some values. -/
theorem filterM_map (f : α → β) (test : β → Except ε Bool) (xs : List α) :
    (xs.map f).filterM test = (xs.filterM fun x => test (f x)).map (List.map f) := by
  -- filtering gathers what it keeps backwards, so the statement is about every such list
  have key : ∀ acc : List α,
      List.filterAuxM test (xs.map f) (acc.map f) =
        (List.filterAuxM (fun x => test (f x)) xs acc).map (List.map f) := by
    induction xs with
    | nil => exact fun acc => rfl
    | cons x xs ih =>
      intro acc
      rw [List.map_cons, List.filterAuxM, List.filterAuxM]
      cases test (f x) with
      | error e => rfl
      | ok b =>
        cases b with
        | true => exact ih (x :: acc)
        | false => exact ih acc
  unfold List.filterM
  have := key []
  rw [List.map_nil] at this
  rw [this]
  cases List.filterAuxM (fun x => test (f x)) xs [] with
  | error e => rfl
  | ok acc => exact congrArg Except.ok List.map_reverse.symm

end Except

namespace AgentPackage

open FileTree

variable {t : FileTree} {q : Place} {content : ByteArray}

namespace Index

section Outline

theorem lift_map {α β : Type} (f : α → β) (x : Except AccessFault α) :
    lift (x.map f) = (lift x).map f := by
  cases x <;> rfl

/-- The entries of a directory are those of the outline. -/
theorem entries_outline (dir : Path) :
    entries t.outline dir = (entries t dir).map (List.map Listed.outline) := by
  unfold entries
  rw [isDirectory_outline]
  cases Package.access dir (t.isDirectory dir) with
  | error f => rfl
  | ok isDirectory =>
    cases isDirectory with
    | true =>
      show lift (t.outline.list dir) = Except.map _ (lift (t.list dir))
      rw [list_outline, lift_map]
    | false => rfl

/-- The directories in a directory are those of the outline. -/
theorem subdirectories_outline (dir : Path) :
    subdirectories t.outline dir = subdirectories t dir := by
  unfold subdirectories
  rw [entries_outline, Except.map_bind]
  congr 1
  funext listed
  rw [Except.filterM_map, Except.map_bind]
  simp only [listedIsDirectory_outline, List.map_map]
  rfl

theorem isSchema_outline (l : Listed) : isSchema t.outline l.outline = isSchema t l := by
  unfold isSchema
  rw [listedIsFile_outline]
  rfl

theorem firstM_outline (listed : List Listed) :
    firstM (isSchema t.outline) (listed.map Listed.outline) =
      (firstM (isSchema t) listed).map (Option.map Listed.outline) := by
  induction listed with
  | nil => rfl
  | cons l listed ih =>
    rw [List.map_cons, firstM, firstM, isSchema_outline]
    cases isSchema t l with
    | error f => rfl
    | ok isSchema =>
      cases isSchema with
      | true => rfl
      | false => exact ih

/-- The first schema in a directory is that of the outline. -/
theorem firstSchema_outline (dir : Path) : firstSchema t.outline dir = firstSchema t dir := by
  unfold firstSchema
  rw [entries_outline, Except.map_bind]
  congr 1
  funext listed
  rw [firstM_outline, Except.map_bind]
  simp only [Option.map_map]
  rfl

theorem kindOf_outline (l : Listed) : kindOf t.outline l.outline = kindOf t l := by
  unfold kindOf
  rw [listedIsDirectory_outline, listedIsFile_outline]

/-- What lies below a directory is seen in the outline. -/
theorem walk_outline (budget : Nat) (ancestors : List Place) (dir : Path) :
    walk t.outline budget ancestors dir = walk t budget ancestors dir := by
  induction budget generalizing ancestors dir with
  | zero => rfl
  | succ budget ih =>
    unfold walk
    rw [list_outline, lift_map, Except.map_bind]
    congr 1
    funext listed
    -- each listed entry is sorted by its kind, and directories are walked with one less to spend
    rw [List.mapM_map]
    simp only [Function.comp_def, kindOf_outline, ih, realPlace, canonical_outline]
    rfl

/-- The files and directories of a package are those of the outline. -/
theorem listing_outline (root : Path) : listing t.outline root = listing t root := by
  unfold listing
  rw [isDirectory_outline, directoryCount_outline, walk_outline, realPlace, realPlace,
    canonical_outline]

end Outline

section Content

theorem subdirectories_withContent (dir : Path) :
    subdirectories (t.withContent q content) dir = subdirectories t dir := by
  rw [← subdirectories_outline, outline_withContent, subdirectories_outline]

theorem firstSchema_withContent (dir : Path) :
    firstSchema (t.withContent q content) dir = firstSchema t dir := by
  rw [← firstSchema_outline, outline_withContent, firstSchema_outline]

theorem listing_withContent (root : Path) :
    listing (t.withContent q content) root = listing t root := by
  rw [← listing_outline, outline_withContent, listing_outline]

end Content

end Index

namespace Document

variable {path : Path} (h : t.locate path ≠ .ok q)

include h

/-- The document of a path that does not lead to the file stays as it is. -/
theorem read_withContent (format : Format) :
    read (t.withContent q content) format path = read t format path := by
  unfold read
  rw [readText_withContent h]

theorem readByExtension_withContent :
    readByExtension (t.withContent q content) path = readByExtension t path := by
  unfold readByExtension
  cases formatOf? path with
  | some format => exact read_withContent h format
  | none => rfl

theorem findLine_withContent (test : List Char → Bool) :
    findLine (t.withContent q content) path test = findLine t path test := by
  unfold findLine
  rw [readText_withContent h]

theorem lineContaining_withContent (token : String) :
    lineContaining (t.withContent q content) path token = lineContaining t path token :=
  findLine_withContent h _

theorem lineOfVersionMarker_withContent :
    lineOfVersionMarker (t.withContent q content) path = lineOfVersionMarker t path :=
  findLine_withContent h _

end Document

/-- The entity of a folder whose manifest is not in the file stays as it is. -/
theorem Index.entity_withContent {α : Type} {kind : String} {shape : RecordShape Shape}
    {build : Fields → α} {dir : Path} (h : t.locate (dir.entry (dir.name ++ ".json")) ≠ .ok q) :
    entity (t.withContent q content) kind shape build dir = entity t kind shape build dir := by
  unfold entity
  simp only [isFile_withContent, Document.read_withContent h]

/-- What is asked of a path outside of a package does not depend on the content of files. -/
theorem Package.pathExists_withContent (p : Package) (path : Path) :
    p.pathExists (t.withContent q content) path = p.pathExists t path := by
  unfold pathExists hasFile hasDirectory
  simp only [isFile_withContent, isDirectory_withContent]

theorem Package.hasDirectory_withContent (p : Package) (path : Path) :
    p.hasDirectory (t.withContent q content) path = p.hasDirectory t path := by
  unfold hasDirectory
  simp only [isDirectory_withContent]

end AgentPackage
