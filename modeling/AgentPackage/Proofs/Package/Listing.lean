import AgentPackage.Proofs.Package.Index
import AgentPackage.Proofs.Package.Walk
import Mathlib.Data.List.Lex
import Mathlib.Data.Prod.Lex

/-!
# The listing of a package

The files and directories of a package are those that are found by following entries from its root,
as long as no real place is met twice on the way. They are listed in the order of their names, each
under every path that leads to it in this way.

## Main definitions

* `Index.Entered`: a path below the root with no real place twice on the way;
* `Index.IsListing`: what a listing of a package holds.

## Main results

* `isListing_of_eq_ok`: what is listed, if a listing is given;
* `listing_exact`: a listing is given if all directories that are entered can be scanned.
-/

namespace AgentPackage

open Except FileTree

section Order

/-- Rows of names are ordered name by name. -/
theorem Path.namesLe_iff {as bs : List String} : Path.namesLe as bs = true ↔ as ≤ bs := by
  rw [← not_lt]
  induction as generalizing bs with
  | nil => simp [Path.namesLe]
  | cons a as ih =>
    cases bs with
    | nil => simp [Path.namesLe]
    | cons b bs =>
      unfold Path.namesLe
      rw [List.cons_lt_cons_iff]
      by_cases hab : a = b
      · simp [hab, ih]
      · have hba : ¬ b = a := fun h => hab h.symm
        simp only [beq_iff_eq, hab, if_false, decide_eq_true_eq, hba, false_and, or_false]
        exact ⟨fun h => h.asymm, fun h => lt_of_le_of_ne (not_lt.mp h) hab⟩

/-- The key by which paths are ordered: first the anchor, then the names. -/
def Path.key (p : Path) : ℕ ×ₗ List String :=
  toLex (Path.anchorRank p.anchor, p.names)

theorem Path.le_iff {p q : Path} : Path.le p q = true ↔ p.key ≤ q.key := by
  unfold Path.le Path.key
  rw [Prod.Lex.toLex_le_toLex]
  have hrank : Path.anchorRank p.anchor = Path.anchorRank q.anchor ↔ p.anchor = q.anchor := by
    rcases p with ⟨_ | _ | _, _⟩ <;> rcases q with ⟨_ | _ | _, _⟩ <;> simp [Path.anchorRank]
  by_cases h : p.anchor = q.anchor
  · simp [h, Path.namesLe_iff]
  · simp [h, hrank]

/-- Different paths with one anchor are sorted by their names. -/
theorem Path.pairwise_sort {ps : List Path} (hnodup : ps.Nodup) {a : Anchor}
    (ha : ∀ p ∈ ps, p.anchor = a) : (Path.sort ps).Pairwise fun p q => p.names < q.names := by
  have hsorted := Sorting.isStableSort_sort (fun p q => Path.le_iff (p := p) (q := q)) ps
  refine (hsorted.pairwise.and (hsorted.perm.nodup_iff.mpr hnodup)).imp_of_mem
    fun {p q} hp hq h => ?_
  have hanchor : p.anchor = q.anchor :=
    (ha p (hsorted.perm.mem_iff.mp hp)).trans (ha q (hsorted.perm.mem_iff.mp hq)).symm
  have hle : p.names ≤ q.names := by
    rw [← Path.namesLe_iff]
    have h := Path.le_iff.mpr h.1
    rwa [Path.le, if_pos (beq_iff_eq.mpr hanchor)] at h
  refine lt_of_le_of_ne hle fun hnames => h.2 ?_
  cases p
  cases q
  cases hanchor
  cases hnames
  rfl

end Order

namespace Index

variable {t : FileTree} {root : Path} {l : Listing}

/-- No real place is met twice on the way from a root to the path that some names make below it, and
all that is met on the way is a directory. -/
def Entered (t : FileTree) (root : Path) (names : List String) : Prop :=
  ∀ part, part <+: names → part ≠ [] →
    t.end? (below root part) = some .directory ∧
      ∀ shorter, shorter <+: part → shorter ≠ part →
        realPlace t (below root part) ≠ realPlace t (below root shorter)

theorem entered_nil : Entered t root [] :=
  fun _ hpart hne => absurd (List.prefix_nil.mp hpart) hne

/-- A directory at another real place than those on the way to it is entered. -/
theorem Entered.concat {names : List String} {name : String} (h : Entered t root names)
    (hend : t.end? (below root (names ++ [name])) = some .directory)
    (hfresh : ∀ shorter, shorter <+: names →
      realPlace t (below root (names ++ [name])) ≠ realPlace t (below root shorter)) :
    Entered t root (names ++ [name]) := by
  intro part hpart hne
  rcases List.prefix_concat_iff.mp hpart with rfl | hpart
  · refine ⟨hend, fun shorter hshorter hne' => hfresh shorter ?_⟩
    exact (List.prefix_concat_iff.mp hshorter).resolve_left hne'
  · exact h part hpart hne

/-- The nonempty parts that start a row are its first member alone, and those that start with it. -/
theorem forall_prefix_cons {α : Type} {a : α} {as : List α} {P : List α → Prop} :
    (∀ part, part <+: a :: as → part ≠ [] → P part) ↔
      P [a] ∧ ∀ part, part <+: as → part ≠ [] → P (a :: part) := by
  constructor
  · intro h
    exact ⟨h [a] (by simp) (by simp), fun part hpart _ =>
      h (a :: part) (by simpa using hpart) (by simp)⟩
  · rintro ⟨hfirst, hrest⟩ part hpart hne
    obtain rfl | ⟨part, rfl, hpart'⟩ := List.prefix_cons_iff.mp hpart
    · exact absurd rfl hne
    · by_cases hnil : part = []
      · rwa [hnil]
      · exact hrest part hpart' hnil

/-- Where a walk goes on, said of all directories on the way at once. -/
theorem enters_iff {ancestors : List Place} {dir : Path} {names : List String} :
    Enters t ancestors dir names ↔
      ∀ part, part <+: names → part ≠ [] →
        t.end? (below dir part) = some .directory ∧ realPlace t (below dir part) ∉ ancestors ∧
          ∀ shorter, shorter <+: part → shorter ≠ [] → shorter ≠ part →
            realPlace t (below dir part) ≠ realPlace t (below dir shorter) := by
  induction names generalizing ancestors dir with
  | nil =>
    exact ⟨fun _ part hpart hne => absurd (List.prefix_nil.mp hpart) hne, fun _ => trivial⟩
  | cons name names ih =>
    have hfirst : ∀ part : List String, part ≠ [] → [name] ≠ name :: part := by simp
    rw [Enters, ih]
    simp only [forall_prefix_cons, below_cons, below_nil, List.mem_cons, not_or]
    -- a place on the way is that of the first directory or one further on
    constructor
    · rintro ⟨hend, hfresh, h⟩
      refine ⟨⟨hend, hfresh, by simp⟩, fun part hpart hne => ?_⟩
      obtain ⟨hend, ⟨hne', hfresh⟩, hshort⟩ := h part hpart hne
      exact ⟨hend, hfresh, fun _ => hne', fun shorter hshorter hnil hneq =>
        hshort shorter hshorter hnil (fun h => hneq (congrArg (name :: ·) h))⟩
    · rintro ⟨⟨hend, hfresh, -⟩, h⟩
      refine ⟨hend, hfresh, fun part hpart hne => ?_⟩
      obtain ⟨hend, hfresh, hne', hshort⟩ := h part hpart hne
      exact ⟨hend, ⟨hne' (hfirst part hne), hfresh⟩, fun shorter hshorter hnil hneq =>
        hshort shorter hshorter hnil (fun h => hneq (List.cons.inj h).2)⟩

/-- The walk from a root enters the directories with no real place twice on the way to them. -/
theorem enters_root_iff {names : List String} :
    Enters t [realPlace t root] root names ↔ Entered t root names := by
  rw [enters_iff]
  refine forall_congr' fun part => forall_congr' fun _ => forall_congr' fun hne =>
    and_congr_right fun _ => ?_
  rw [List.mem_singleton]
  constructor
  · rintro ⟨hroot, hshort⟩ shorter hshorter hne'
    by_cases hnil : shorter = []
    · rw [hnil, below_nil]
      exact hroot
    · exact hshort shorter hshorter hnil hne'
  · intro h
    refine ⟨?_, fun shorter hshorter _ hne' => h shorter hshorter hne'⟩
    have hroot := h [] List.nil_prefix hne.symm
    rwa [below_nil] at hroot

/-- What a listing of the package at a root holds. -/
structure IsListing (t : FileTree) (root : Path) (l : Listing) : Prop where
  /-- The directories are those behind directories with no real place twice on the way. -/
  mem_directories : ∀ path, path ∈ l.directories ↔
    ∃ names name, (∀ n ∈ names ++ [name], IsFileName n) ∧ Entered t root names ∧
      path = below root (names ++ [name]) ∧ t.end? path = some .directory
  /-- The files are those behind directories with no real place twice on the way. -/
  mem_files : ∀ path, path ∈ l.files ↔
    ∃ names name, (∀ n ∈ names ++ [name], IsFileName n) ∧ Entered t root names ∧
      path = below root (names ++ [name]) ∧ ∃ content, t.end? path = some (.file content)
  /-- The directories are in order, each once. -/
  directories_lt : l.directories.Pairwise fun p q => p.names < q.names
  /-- The files are in order, each once. -/
  files_lt : l.files.Pairwise fun p q => p.names < q.names
  /-- No path is that of a file and that of a directory. -/
  disjoint : l.directories.Disjoint l.files

/-- Whether a path leads to a directory is answered by what stands at its end. -/
theorem access_isDirectory_eq_ok (ht : t.WellFormed) {p : Path} {b : Bool}
    (h : Package.access p (t.isDirectory p) = .ok b) :
    b = true ↔ t.end? p = some .directory := by
  rw [ht.probe_eq_ok (access_eq_ok_iff.mp h)]
  rcases t.end? p with _ | _ | _ | _ <;> simp [isFolder]

/-- A walk that starts at the root of a package has no place on its way but that one. -/
theorem onTheWay_root (hroot : root.Proper) (hend : t.end? root = some .directory) :
    OnTheWay t (t.directoryCount + 1) [realPlace t root] := by
  refine ⟨List.nodup_singleton _, ?_, ?_⟩
  · rw [List.forall_mem_singleton]
    exact find?_canonical hroot hend
  · rw [List.length_singleton]

/-- Nothing is listed where the root is no directory. -/
theorem isListing_empty (ht : t.WellFormed) (hroot : t.end? root ≠ some .directory) :
    IsListing t root {} := by
  have hnone : ∀ names name, t.end? (below root (names ++ [name])) = none := by
    intro names name
    cases hend : t.end? (below root (names ++ [name])) with
    | none => rfl
    | some e => exact absurd (ht.end?_of_append (by simp) hend) hroot
  refine ⟨fun path => iff_of_false List.not_mem_nil ?_,
    fun path => iff_of_false List.not_mem_nil ?_, .nil, .nil, by simp⟩
  · rintro ⟨names, name, -, -, rfl, hend⟩
    rw [hnone] at hend
    cases hend
  · rintro ⟨names, name, -, -, rfl, content, hend⟩
    rw [hnone] at hend
    cases hend

/-- What a walk from the root lists, sorted. -/
theorem isListing_sort (ht : t.WellFormed) (hroot : root.Proper)
    (hdirectory : t.end? root = some .directory) {walked : Listing}
    (h : walk t (t.directoryCount + 1) [realPlace t root] root = .ok walked) :
    IsListing t root ⟨Path.sort walked.files, Path.sort walked.directories⟩ := by
  have hway := onTheWay_root hroot hdirectory
  have hmem : ∀ k, k ≠ .other → ∀ path, path ∈ Path.sort (walked.paths k) ↔
      Lists t k [realPlace t root] root path := fun k hk path =>
    (Sorting.sort_perm _ _).mem_iff.trans (mem_walk_iff ht hk hroot hway h)
  have hanchor : ∀ k, k ≠ .other → ∀ path ∈ walked.paths k, path.anchor = root.anchor := by
    intro k hk path hpath
    obtain ⟨_, _, -, -, rfl, -⟩ := (mem_walk_iff ht hk hroot hway h).mp hpath
    rfl
  have hlt : ∀ k, k ≠ .other →
      (Path.sort (walked.paths k)).Pairwise fun p q => p.names < q.names :=
    fun k hk => Path.pairwise_sort (nodup_walk ht hk hroot hway h) (hanchor k hk)
  refine ⟨fun path => ?_, fun path => ?_, hlt .directory (by decide), hlt .file (by decide),
    fun path hdirectory hfile => ?_⟩
  · refine (hmem .directory (by decide) path).trans ?_
    simp only [Lists, enters_root_iff, Kind.ofEnd_eq_directory]
  · refine (hmem .file (by decide) path).trans ?_
    simp only [Lists, enters_root_iff, Kind.ofEnd_eq_file]
  · obtain ⟨_, _, -, -, -, hkind⟩ := (hmem .directory (by decide) path).mp hdirectory
    obtain ⟨_, _, -, -, -, hkind'⟩ := (hmem .file (by decide) path).mp hfile
    cases hkind.symm.trans hkind'

/-- What is listed, if a listing is given. -/
theorem isListing_of_eq_ok (ht : t.WellFormed) (hroot : root.Proper)
    (h : listing t root = .ok l) : IsListing t root l := by
  unfold listing at h
  obtain ⟨isDirectory, hdirectory, h⟩ := bind_eq_ok.mp h
  have hdirectory := access_isDirectory_eq_ok ht hdirectory
  cases isDirectory with
  | false =>
    obtain rfl := pure_eq_ok.mp h
    exact isListing_empty ht fun hend => Bool.noConfusion (hdirectory.mpr hend)
  | true =>
    obtain ⟨walked, hwalk, h⟩ := bind_eq_ok.mp h
    obtain rfl := pure_eq_ok.mp h
    exact isListing_sort ht hroot (hdirectory.mp rfl) hwalk

/-- A listing is given exactly if it can be told whether the root is a directory and what the
entries of all directories that are entered lead to. -/
theorem exists_listing_iff (ht : t.WellFormed) (hroot : root.Proper) :
    (∃ l, listing t root = .ok l) ↔
      (∃ b, t.isDirectory root = .ok b) ∧
        ∀ names, (∀ n ∈ names, IsFileName n) → Entered t root names →
          t.end? (below root names) = some .directory → Scans t (below root names) := by
  constructor
  · rintro ⟨l, h⟩
    unfold listing at h
    obtain ⟨b, hb, h⟩ := bind_eq_ok.mp h
    have hdirectory := access_isDirectory_eq_ok ht hb
    refine ⟨⟨b, access_eq_ok_iff.mp hb⟩, fun names hnames hentered hend => ?_⟩
    -- the root is a directory, whether it is the one that is entered or one below it is
    have hroot' : t.end? root = some .directory := by
      by_cases hnil : names = []
      · rwa [hnil, below_nil] at hend
      · exact ht.end?_of_append hnil hend
    obtain rfl := hdirectory.mpr hroot'
    obtain ⟨walked, hwalk, -⟩ := bind_eq_ok.mp h
    exact scans_of_walk_eq_ok ht hroot (onTheWay_root hroot hroot') hwalk hnames
      (enters_root_iff.mpr hentered)
  · rintro ⟨⟨b, hb⟩, hscan⟩
    have hdirectory := access_isDirectory_eq_ok ht (access_eq_ok_iff.mpr hb)
    unfold listing
    rw [hb]
    cases b with
    | false => exact ⟨{}, rfl⟩
    | true =>
      obtain ⟨l, hl⟩ : ∃ l, walk t (t.directoryCount + 1) [realPlace t root] root = .ok l := by
        refine walk_ok ht hroot fun names hnames h => ?_
        have hentered := enters_root_iff.mp h
        refine hscan names hnames hentered ?_
        by_cases hnil : names = []
        · rw [hnil, below_nil]
          exact hdirectory.mp rfl
        · exact (hentered names (List.prefix_refl _) hnil).1
      exact ⟨_, bind_eq_ok.mpr ⟨true, rfl, bind_eq_ok.mpr ⟨l, hl, rfl⟩⟩⟩

section Cycle

/-- A directory with a link back to the one around it, and a second name for it. -/
def cycle : FileTree :=
  ⟨[(["p"], .directory), (["p", "a"], .directory), (["p", "a", "f"], .file ⟨#[]⟩),
    (["p", "a", "up"], .link ".."), (["p", "b"], .link "a"), (["p", "gone"], .link "none")]⟩

/-- The root of the package with the cycle. -/
def cycleRoot : Path :=
  ⟨.root, ["p"]⟩

end Cycle

section Deep

/-- The longest name that a file can have. -/
def longName : String :=
  String.ofList (List.replicate nameByteLimit 'd')

/-- Directories with the longest name, one in the other, the path of the last of them too long. -/
def deep : FileTree :=
  ⟨(List.range 16).map fun n => (List.replicate (n + 1) longName, .directory)⟩

/-- The directory at a depth. -/
def deepPath (n : ℕ) : Path :=
  ⟨.root, List.replicate n longName⟩

theorem utf8ByteSize_longName : longName.utf8ByteSize = nameByteLimit := by
  rw [longName, String.utf8ByteSize_ofList]
  decide +kernel

theorem isFileName_longName : IsFileName longName := by
  have hchar : ∀ c ∈ longName.toList, c = 'd' := fun c hc => by
    rw [longName, String.toList_ofList] at hc
    exact List.eq_of_mem_replicate hc
  have hne : ∀ s : String, s.utf8ByteSize ≠ nameByteLimit → longName ≠ s := by
    rintro s hs rfl
    exact hs utf8ByteSize_longName
  refine ⟨⟨hne _ (by decide), hne _ (by decide), fun h => ?_⟩, hne _ (by decide), fun c hc => ?_,
    utf8ByteSize_longName.le⟩
  · exact absurd (hchar _ h) (by decide)
  · rw [hchar c hc]
    decide

theorem wellFormed_deep : deep.WellFormed := by
  constructor
  · unfold deep
    rw [List.map_map]
    refine List.nodup_range.map fun m n h => ?_
    simpa using congrArg List.length h
  · intro x hx name hname
    obtain ⟨n, -, rfl⟩ := List.mem_map.mp hx
    rw [List.eq_of_mem_replicate hname]
    exact isFileName_longName

/-- Directories stand as deep as the tree goes. -/
theorem standing_deep {n : ℕ} (hn : n ≤ 16) : Standing deep (List.replicate n longName) := by
  intro q hq
  have hlength := hq.length_le
  rw [List.length_replicate] at hlength
  cases hk : q.length with
  | zero =>
    rw [List.eq_nil_of_length_eq_zero hk]
    rfl
  | succ k =>
    have hq : q = List.replicate (k + 1) longName := by
      rw [← hk]
      exact List.eq_replicate_length.mpr fun x hx => List.eq_of_mem_replicate (hq.subset hx)
    rw [hq]
    refine find?_of_mem_entries wellFormed_deep.nodup (by simp) ?_
    exact List.mem_map.mpr ⟨k, List.mem_range.mpr (by omega), rfl⟩

/-- The size of the text of a path with one name repeated. -/
theorem utf8ByteSize_text_replicate (name : String) (n : ℕ) :
    (Path.text ⟨.root, List.replicate (n + 1) name⟩).utf8ByteSize =
      (n + 1) * (name.utf8ByteSize + 1) := by
  have hnames : ("/".intercalate (List.replicate (n + 1) name)).utf8ByteSize + 1 =
      (n + 1) * (name.utf8ByteSize + 1) := by
    induction n with
    | zero =>
      rw [List.replicate_one, String.intercalate_singleton, zero_add, one_mul]
    | succ n ih =>
      rw [List.replicate_succ, List.replicate_succ, String.intercalate_cons_cons,
        String.utf8ByteSize_append, String.utf8ByteSize_append, add_assoc, ← List.replicate_succ,
        ih]
      rw [show "/".utf8ByteSize = 1 from rfl]
      ring
  rw [← hnames, Path.text, String.utf8ByteSize_append, add_comm]
  rfl

theorem proper_deepPath (n : ℕ) : (deepPath n).Proper := fun name hname => by
  rw [List.eq_of_mem_replicate hname]
  exact isFileName_longName.1

theorem locateFrom_deepPath {n : ℕ} (hn : n ≤ 16) :
    deep.locateFrom true linkLimit [] (deepPath n).names = .ok (deepPath n).names := by
  refine locateFrom_of_standing (fun name hname => ?_) (standing_deep hn)
  rw [List.eq_of_mem_replicate hname]
  exact ⟨isFileName_longName.1.2.1, isFileName_longName.2.1, isFileName_longName.2.2.2⟩

theorem end?_deepPath {n : ℕ} (hn : n ≤ 16) : deep.end? (deepPath n) = some .directory := by
  unfold end?
  rw [locateFrom_deepPath hn]
  exact standing_deep hn _ (List.prefix_refl _)

/-- The path of the last directory is too long to be followed, those of the others are not. -/
theorem locate_deepPath :
    deep.locate (deepPath 15) = .ok (deepPath 15).names ∧
      deep.locate (deepPath 16) = .error .nameTooLong := by
  have htext := fun n => utf8ByteSize_text_replicate longName n
  rw [utf8ByteSize_longName] at htext
  constructor
  · unfold locate
    rw [if_neg (by rw [deepPath, htext 14]; decide)]
    exact locateFrom_deepPath (by decide)
  · unfold locate
    rw [if_pos (by rw [deepPath, htext 15]; decide)]

end Deep

end Index

end AgentPackage
