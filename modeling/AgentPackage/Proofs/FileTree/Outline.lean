import AgentPackage.Failure

/-!
# The outline of a file tree

The outline of a file tree is the tree with all its files emptied. Following links, listing
directories and asking what a path leads to see no more than the outline; only reading a file sees
its content. So replacing the content of one file changes nothing but what is read from that file.

## Main definitions

* `FileTree.withContent`: the tree with other content in the file at a place;
* `FileTree.outline`: the tree with all files emptied.

## Main results

* `locate_outline`, `canonical_outline`, `list_outline`: paths and directories are followed and
  listed by the outline;
* `locate_withContent`, `isFile_withContent`, `isDirectory_withContent`: other content in a file
  does not change what paths lead to;
* `readText_withContent`: nor what is read from paths that do not lead to the file.
-/

namespace AgentPackage

/-- The entry with other content, if it is a file. -/
def Entry.withContent (content : ByteArray) : Entry → Entry
  | .file _ => .file content
  | e => e

/-- The entry with no content, if it is a file. -/
def Entry.outline (e : Entry) : Entry :=
  e.withContent .empty

namespace FileTree

/-- The tree with other content in the file at a place, if a file is there. -/
def withContent (t : FileTree) (place : Place) (content : ByteArray) : FileTree :=
  ⟨t.entries.map fun x => (x.1, if x.1 == place then x.2.withContent content else x.2)⟩

/-- The tree with all files emptied. -/
def outline (t : FileTree) : FileTree :=
  ⟨t.entries.map fun x => (x.1, x.2.outline)⟩

variable {t : FileTree} {q : Place} {content : ByteArray}

/-- Other content in a file leaves the outline as it is. -/
theorem outline_withContent : (t.withContent q content).outline = t.outline := by
  unfold outline withContent
  rw [List.map_map]
  congr 1
  apply List.map_congr_left
  intro x _
  simp only [Function.comp_apply]
  -- emptying a file takes away its content, new or old
  split
  · cases x.2 <;> rfl
  · rfl

section Entries

/-- Looking up in a list of pairs whose second components were mapped. -/
theorem lookup_map_snd (f : Place → Entry → Entry) (xs : List (Place × Entry)) (p : Place) :
    (xs.map fun x => (x.1, f x.1 x.2)).lookup p = (xs.lookup p).map (f p) := by
  induction xs with
  | nil => rfl
  | cons x xs ih =>
    rw [List.map_cons, List.lookup_cons, List.lookup_cons, ih]
    cases h : p == x.1 with
    | true =>
      obtain rfl : p = x.1 := by simpa using h
      rfl
    | false => rfl

/-- What stands at a place of the outline. -/
theorem find?_outline (p : Place) : t.outline.find? p = (t.find? p).map Entry.outline := by
  unfold find? outline
  split
  · rfl
  · exact lookup_map_snd (fun _ => Entry.outline) t.entries p

/-- Other content in a file does not change what stands at other places. -/
theorem find?_withContent {p : Place} (h : p ≠ q) :
    (t.withContent q content).find? p = t.find? p := by
  unfold find? withContent
  split
  · rfl
  · rw [lookup_map_snd (fun place e => if place == q then e.withContent content else e)]
    simp [h]

theorem childNames_outline (p : Place) : t.outline.childNames p = t.childNames p := by
  unfold childNames outline
  rw [List.filterMap_map]
  rfl

theorem linkCount_outline : t.outline.linkCount = t.linkCount := by
  unfold linkCount outline
  rw [List.countP_map]
  congr 1
  funext x
  simp only [Function.comp_apply]
  cases x.2 <;> rfl

theorem directoryCount_outline : t.outline.directoryCount = t.directoryCount := by
  unfold directoryCount outline
  rw [List.countP_map]
  congr 2
  funext x
  simp only [Function.comp_apply]
  cases x.2 <;> rfl

end Entries

section Links

/-- Names are followed by the outline. -/
theorem passNames_outline (followLast : Bool)
    (follow : Place → List String → Except AccessError Place) (here : Place)
    (names : List String) :
    t.outline.passNames followLast follow here names =
      t.passNames followLast follow here names := by
  induction names generalizing here with
  | nil => rfl
  | cons name rest ih =>
    unfold passNames
    -- what stands at the next name is told apart by its kind, which the outline keeps
    rw [find?_outline]
    simp only [ih]
    cases t.find? (here ++ [name]) with
    | none => rfl
    | some e => cases e <;> rfl

theorem locateFrom_outline (followLast : Bool) (budget : Nat) :
    t.outline.locateFrom followLast budget = t.locateFrom followLast budget := by
  -- the function that enters links is that of the smaller budget
  induction budget with
  | zero =>
    funext here names
    exact passNames_outline followLast _ here names
  | succ budget ih =>
    funext here names
    unfold locateFrom
    rw [ih]
    exact passNames_outline followLast _ here names

/-- The place that a path leads to is that of the outline. -/
theorem locate_outline (p : Path) : t.outline.locate p = t.locate p := by
  unfold locate
  rw [locateFrom_outline]

/-- What a path leads to in the outline. -/
theorem stat_outline (p : Path) : t.outline.stat p = (t.stat p).map Entry.outline := by
  unfold stat
  rw [locate_outline]
  cases t.locate p with
  | error e => rfl
  | ok place =>
    simp only [bind, Except.bind]
    rw [find?_outline]
    cases t.find? place <;> rfl

/-- Links are removed by the outline. -/
theorem removeLinks_outline (enter : List Place → Place → List String → Except Path Place)
    (active : List Place) (here : Place) (names : List String) :
    t.outline.removeLinks enter active here names = t.removeLinks enter active here names := by
  induction names generalizing here with
  | nil => rfl
  | cons name rest ih =>
    unfold removeLinks
    rw [find?_outline]
    simp only [ih]
    cases t.find? (here ++ [name]) with
    | none => rfl
    | some e => cases e <;> rfl

theorem canonicalFrom_outline (budget : Nat) :
    t.outline.canonicalFrom budget = t.canonicalFrom budget := by
  induction budget with
  | zero =>
    funext active here names
    exact removeLinks_outline _ active here names
  | succ budget ih =>
    funext active here names
    unfold canonicalFrom
    rw [ih]
    exact removeLinks_outline _ active here names

/-- The path without links is that of the outline. -/
theorem canonical_outline (p : Path) : t.outline.canonical p = t.canonical p := by
  unfold canonical
  rw [linkCount_outline, canonicalFrom_outline]

end Links

section Tests

/-- Whether a path leads to something is seen in the outline, if the test does not look at the
content of files. -/
theorem probe_outline {test : Entry → Bool} (htest : ∀ e : Entry, test e.outline = test e)
    (p : Path) : t.outline.probe test p = t.probe test p := by
  unfold probe
  rw [stat_outline]
  split
  · rfl
  · cases t.stat p with
    | error e => rfl
    | ok e => exact congrArg Except.ok (htest e)

theorem isRegular_outline (e : Entry) : isRegular e.outline = isRegular e := by
  cases e <;> rfl

theorem isFolder_outline (e : Entry) : isFolder e.outline = isFolder e := by
  cases e <;> rfl

theorem isFile_outline (p : Path) : t.outline.isFile p = t.isFile p :=
  probe_outline isRegular_outline p

theorem isDirectory_outline (p : Path) : t.outline.isDirectory p = t.isDirectory p :=
  probe_outline isFolder_outline p

/-- The directory that a path leads to, without links, is that of the outline. -/
theorem resolve_outline (cwd p : Path) : t.outline.resolve cwd p = t.resolve cwd p := by
  unfold resolve
  simp only [canonical_outline, stat_outline]
  cases t.stat (t.canonical (absolute cwd p)) <;> rfl

end Tests

section Listing

/-- A listed entry without the content of its file. -/
def Listed.outline (l : Listed) : Listed :=
  { l with entry := l.entry.outline }

/-- Directories are listed by the outline. -/
theorem list_outline (dir : Path) :
    t.outline.list dir = (t.list dir).map (List.map Listed.outline) := by
  unfold list
  rw [locate_outline]
  cases withPath dir (t.locate dir) with
  | error f => rfl
  | ok place =>
    simp only [bind, Except.bind, find?_outline, childNames_outline]
    cases t.find? place with
    | none => rfl
    | some e =>
      cases e with
      | directory =>
        show Except.ok _ = Except.ok _
        -- the same names are listed, and only what stands at them is emptied
        rw [List.map_filterMap]
        simp only [Option.map_map]
        rfl
      | _ => rfl

theorem leadsTo_outline {test : Entry → Bool} (htest : ∀ e : Entry, test e.outline = test e)
    (l : Listed) : l.outline.leadsTo t.outline test = l.leadsTo t test := by
  unfold Listed.leadsTo Listed.outline
  cases l.entry with
  | link target =>
    -- a link has no content of its own; what it leads to is seen in the outline
    simp only [Entry.outline, Entry.withContent]
    rw [stat_outline]
    cases t.stat l.path with
    | ok e => exact congrArg Except.ok (htest e)
    | error e => cases e <;> rfl
  | file content => exact congrArg Except.ok (htest (.file content))
  | directory => exact congrArg Except.ok (htest .directory)

/-- Whether a listed entry leads to a directory is seen in the outline. -/
theorem listedIsDirectory_outline (l : Listed) :
    l.outline.isDirectory t.outline = l.isDirectory t :=
  leadsTo_outline isFolder_outline l

/-- Whether a listed entry leads to a file is seen in the outline. -/
theorem listedIsFile_outline (l : Listed) : l.outline.isFile t.outline = l.isFile t :=
  leadsTo_outline isRegular_outline l

end Listing

section Content

theorem locate_withContent (p : Path) : (t.withContent q content).locate p = t.locate p := by
  rw [← locate_outline, outline_withContent, locate_outline]

theorem isFile_withContent (p : Path) : (t.withContent q content).isFile p = t.isFile p := by
  rw [← isFile_outline, outline_withContent, isFile_outline]

theorem isDirectory_withContent (p : Path) :
    (t.withContent q content).isDirectory p = t.isDirectory p := by
  rw [← isDirectory_outline, outline_withContent, isDirectory_outline]

theorem resolve_withContent (cwd p : Path) :
    (t.withContent q content).resolve cwd p = t.resolve cwd p := by
  rw [← resolve_outline, outline_withContent, resolve_outline]

/-- Other content in a file does not change what other paths lead to. -/
theorem stat_withContent {p : Path} (h : t.locate p ≠ .ok q) :
    (t.withContent q content).stat p = t.stat p := by
  unfold stat
  rw [locate_withContent]
  cases hplace : t.locate p with
  | error e => rfl
  | ok place =>
    have hne : place ≠ q := fun heq => h (heq ▸ hplace)
    simp only [bind, Except.bind, find?_withContent hne]

/-- Other content in a file does not change what is read from other paths. -/
theorem readText_withContent {p : Path} (h : t.locate p ≠ .ok q) (shown : Path) :
    (t.withContent q content).readText shown p = t.readText shown p := by
  unfold readText readBytes
  rw [stat_withContent h]

end Content

end FileTree

end AgentPackage
