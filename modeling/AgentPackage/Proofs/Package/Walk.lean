import AgentPackage.Package.Index
import AgentPackage.Proofs.FileTree.Listed

/-!
# The walk below a directory

The files and directories of a package are listed by a walk that follows links and goes on at every
directory that does not lie, without links, at a place on the way to it. The walk keeps the places
on the way, which are different directories of the tree, so that its budget is never used up.

## Main definitions

* `Index.below`: a path below a directory, by its names;
* `Index.Enters`: a walk goes on at the directories that some names make, one below the other;
* `Index.Scans`: it can be told what the entries of a directory lead to.

## Main results

* `mem_walk_iff`, `nodup_walk`: what a walk that ends lists, each path once;
* `walk_ok`, `scans_of_walk_eq_ok`: a walk ends exactly if all directories that it enters can be
  scanned.
-/

namespace AgentPackage.Index

open Except FileTree

variable {t : FileTree}

section Paths

variable {dir : Path} {name : String} {names : List String}

/-- The path below a directory that some names make. -/
def below (dir : Path) (names : List String) : Path :=
  ⟨dir.anchor, dir.names ++ names⟩

@[simp]
theorem below_nil : below dir [] = dir := by
  simp [below]

theorem below_cons : below dir (name :: names) = below (dir.entry name) names := by
  simp [below, Path.entry]

theorem below_concat : below dir (names ++ [name]) = (below dir names).entry name := by
  simp [below, Path.entry]

theorem below_proper (hdir : dir.Proper) (hnames : ∀ n ∈ names, IsFileName n) :
    (below dir names).Proper := by
  intro n hn
  rcases List.mem_append.mp hn with hn | hn
  · exact hdir n hn
  · exact (hnames n hn).1

theorem below_injective {names' : List String} (h : below dir names = below dir names') :
    names = names' :=
  List.append_cancel_left (congrArg Path.names h)

/-- Names without `..` below a directory without `..` make a path in normal form. -/
theorem normalize_below (hdir : ".." ∉ dir.names) (hnames : ".." ∉ names) :
    (below dir names).normalize = below dir names := by
  have hup : ".." ∉ (below dir names).names := by
    rw [below, List.mem_append, not_or]
    exact ⟨hdir, hnames⟩
  rw [Path.normalize, Path.normalNames_of_notMem hup]

end Paths

section Kinds

/-- The kind of what stands at the end of a path. -/
def Kind.ofEnd : Option Entry → Kind
  | some .directory => .directory
  | some (.file _) => .file
  | _ => .other

theorem Kind.ofEnd_eq_directory {e : Option Entry} :
    Kind.ofEnd e = .directory ↔ e = some .directory := by
  rcases e with _ | _ | _ | _ <;> simp [Kind.ofEnd]

theorem Kind.ofEnd_eq_file {e : Option Entry} :
    Kind.ofEnd e = .file ↔ ∃ content, e = some (.file content) := by
  rcases e with _ | _ | _ | _ <;> simp [Kind.ofEnd]

/-- The fault of a listed entry becomes a failure, its answer stays. -/
theorem lift_eq_ok_iff {α : Type} {x : Except AccessFault α} {a : α} :
    lift x = .ok a ↔ x = .ok a := by
  cases x with
  | ok b => simp [lift]
  | error f => simp [lift]

/-- The kind of a listed entry is that of what stands at the end of its path. -/
theorem kindOf_eq_ok (ht : t.WellFormed) {dir : Path} (hdir : dir.Proper) {listed : List Listed}
    (hlisted : t.list dir = .ok listed) {l : Listed} (hl : l ∈ listed) {k : Kind}
    (h : kindOf t l = .ok k) : k = Kind.ofEnd (t.end? l.path) := by
  unfold kindOf at h
  obtain ⟨isDirectory, hdirectory, h⟩ := bind_eq_ok.mp h
  have hdirectory := leadsTo_eq_ok ht hdir hlisted hl (lift_eq_ok_iff.mp hdirectory)
  cases isDirectory with
  | true =>
    obtain rfl := pure_eq_ok.mp h
    rcases hend : t.end? l.path with _ | _ | _ | _ <;> rw [hend] at hdirectory <;> cases hdirectory
    rfl
  | false =>
    obtain ⟨isFile, hfile, h⟩ := bind_eq_ok.mp h
    have hfile := leadsTo_eq_ok ht hdir hlisted hl (lift_eq_ok_iff.mp hfile)
    cases isFile with
    | true =>
      obtain rfl := pure_eq_ok.mp h
      rcases hend : t.end? l.path with _ | _ | _ | _ <;> rw [hend] at hfile <;> cases hfile
      rfl
    | false =>
      obtain rfl := pure_eq_ok.mp h
      rcases hend : t.end? l.path with _ | _ | _ | _ <;>
        rw [hend] at hfile hdirectory <;> cases hfile <;> cases hdirectory <;> rfl

end Kinds

section Walk

/-- The paths of one kind in a listing. -/
def Listing.paths (k : Kind) (l : Listing) : List Path :=
  match k with
  | .directory => l.directories
  | .file => l.files
  | .other => []

/-- The paths of one kind. -/
def pathsOf (k : Kind) (kinds : List (Path × Kind)) : List Path :=
  kinds.filterMap fun (p, k') => if k' == k then some p else none

theorem mem_pathsOf {k : Kind} {kinds : List (Path × Kind)} {p : Path} :
    p ∈ pathsOf k kinds ↔ (p, k) ∈ kinds := by
  unfold pathsOf
  rw [List.mem_filterMap]
  constructor
  · rintro ⟨⟨q, k'⟩, hmem, h⟩
    obtain ⟨hk, h⟩ := Option.ite_none_right_eq_some.mp h
    cases h
    rw [← beq_iff_eq.mp hk]
    exact hmem
  · intro h
    exact ⟨_, h, by simp⟩

/-- The directories at which a walk goes on. -/
def entered (t : FileTree) (ancestors : List Place) (kinds : List (Path × Kind)) : List Path :=
  (pathsOf .directory kinds).filter fun p => !ancestors.contains (realPlace t p)

/-- Listings one after the other. -/
theorem paths_foldl_append {k : Kind} (hk : k ≠ .other) (own : Listing) (ls : List Listing) :
    (ls.foldl Listing.append own).paths k = own.paths k ++ ls.flatMap (Listing.paths k) := by
  induction ls generalizing own with
  | nil => simp
  | cons l ls ih =>
    rw [List.foldl_cons, ih, List.flatMap_cons, ← List.append_assoc]
    congr 1
    cases k with
    | other => exact absurd rfl hk
    | _ => rfl

variable {budget : ℕ} {ancestors : List Place} {dir : Path} {l : Listing}

/-- What a walk does at one directory. -/
theorem walk_succ_eq_ok_iff :
    walk t (budget + 1) ancestors dir = .ok l ↔
      ∃ listed kinds inner, t.list dir = .ok listed ∧
        List.Forall₂ (fun (l : Listed) x => x.1 = l.path ∧ kindOf t l = .ok x.2) listed kinds ∧
        List.Forall₂ (fun p l => walk t budget (realPlace t p :: ancestors) p = .ok l)
          (entered t ancestors kinds).reverse inner ∧
        l = inner.foldl Listing.append ⟨pathsOf .file kinds, pathsOf .directory kinds⟩ := by
  have hkind : ∀ (l : Listed) (x : Path × Kind),
      (do return (l.path, ← kindOf t l) : Except Failure (Path × Kind)) = .ok x ↔
        x.1 = l.path ∧ kindOf t l = .ok x.2 := by
    rintro l ⟨p, k⟩
    simp only [bind_eq_ok, pure_eq_ok, Prod.mk.injEq]
    constructor
    · rintro ⟨k', hk', rfl, rfl⟩
      exact ⟨rfl, hk'⟩
    · rintro ⟨rfl, hk⟩
      exact ⟨k, hk, rfl, rfl⟩
  rw [walk]
  simp only [bind_eq_ok, lift_eq_ok_iff, mapM_eq_ok, pure_eq_ok, hkind]
  constructor
  · rintro ⟨listed, hlisted, kinds, hkinds, inner, hinner, rfl⟩
    exact ⟨listed, kinds, inner, hlisted, hkinds, hinner, rfl⟩
  · rintro ⟨listed, kinds, inner, hlisted, hkinds, hinner, rfl⟩
    exact ⟨listed, hlisted, kinds, hkinds, inner, hinner, rfl⟩

/-- The walk goes on at the directories that some names make, one below the other, if the places of
`ancestors` lie on the way to the first of them. -/
def Enters (t : FileTree) : List Place → Path → List String → Prop
  | _, _, [] => True
  | ancestors, dir, name :: names =>
    t.end? (dir.entry name) = some .directory ∧ realPlace t (dir.entry name) ∉ ancestors ∧
      Enters t (realPlace t (dir.entry name) :: ancestors) (dir.entry name) names

/-- A path of a kind that is listed below a directory: the walk goes on at the directories on the
way to it. -/
def Lists (t : FileTree) (k : Kind) (ancestors : List Place) (dir path : Path) : Prop :=
  ∃ names name, (∀ n ∈ names ++ [name], IsFileName n) ∧ Enters t ancestors dir names ∧
    path = below dir (names ++ [name]) ∧ Kind.ofEnd (t.end? path) = k

/-- What is listed below a directory is an entry of it or listed below one of its entries. -/
theorem lists_iff {k : Kind} {path : Path} :
    Lists t k ancestors dir path ↔
      (∃ name, IsFileName name ∧ path = dir.entry name ∧ Kind.ofEnd (t.end? path) = k) ∨
        ∃ name, IsFileName name ∧ t.end? (dir.entry name) = some .directory ∧
          realPlace t (dir.entry name) ∉ ancestors ∧
          Lists t k (realPlace t (dir.entry name) :: ancestors) (dir.entry name) path := by
  constructor
  · rintro ⟨names, name, hnames, henters, hpath, hkind⟩
    cases names with
    | nil =>
      refine .inl ⟨name, hnames name (by simp), ?_, hkind⟩
      rw [hpath, below_concat, below_nil]
    | cons first names =>
      rw [List.cons_append, List.forall_mem_cons] at hnames
      rw [List.cons_append, below_cons] at hpath
      exact .inr ⟨first, hnames.1, henters.1, henters.2.1, names, name, hnames.2, henters.2.2,
        hpath, hkind⟩
  · rintro (⟨name, hname, rfl, hkind⟩ | ⟨first, hfirst, hend, hfresh, names, name, hnames, henters,
      hpath, hkind⟩)
    · refine ⟨[], name, by simpa using hname, trivial, ?_, hkind⟩
      rw [below_concat, below_nil]
    · refine ⟨first :: names, name, ?_, ⟨hend, hfresh, henters⟩, ?_, hkind⟩
      · rw [List.cons_append, List.forall_mem_cons]
        exact ⟨hfirst, hnames⟩
      · rw [List.cons_append, below_cons, hpath]

/-- Different directories of the tree are counted. -/
theorem length_le_directoryCount {places : List Place} (hnodup : places.Nodup)
    (hplaces : ∀ place ∈ places, t.find? place = some .directory) :
    places.length ≤ t.directoryCount := by
  -- the root has no entry
  have hrest : (places.erase []).length + 1 ≤ t.directoryCount := by
    refine Nat.succ_le_succ (length_le_countP (hnodup.erase []) fun place hplace => ?_)
    obtain ⟨hne, hplace⟩ := hnodup.mem_erase_iff.mp hplace
    exact ⟨.directory, mem_entries_of_find? hne (hplaces place hplace), rfl⟩
  exact (Nat.sub_le_iff_le_add.mp List.le_length_erase).trans hrest

/-- The places on the way of a walk are different directories, and with them the budget bounds the
number of directories. -/
structure OnTheWay (t : FileTree) (budget : ℕ) (ancestors : List Place) : Prop where
  /-- The places are different. -/
  nodup : ancestors.Nodup
  /-- Directories stand at them. -/
  isDirectory : ∀ place ∈ ancestors, t.find? place = some .directory
  /-- The budget is that of one directory more than there are. -/
  budget : t.directoryCount + 2 ≤ budget + ancestors.length

/-- The budget of a walk is not used up. -/
theorem OnTheWay.pos (h : OnTheWay t budget ancestors) : 0 < budget := by
  have hlength := length_le_directoryCount h.nodup h.isDirectory
  have hbudget := h.budget
  omega

/-- One more directory is on the way when a walk goes on at it. -/
theorem OnTheWay.cons (h : OnTheWay t (budget + 1) ancestors) {p : Path} (hp : p.Proper)
    (hend : t.end? p = some .directory) (hfresh : realPlace t p ∉ ancestors) :
    OnTheWay t budget (realPlace t p :: ancestors) := by
  refine ⟨List.nodup_cons.mpr ⟨hfresh, h.nodup⟩, ?_, ?_⟩
  · rw [List.forall_mem_cons]
    exact ⟨find?_canonical hp hend, h.isDirectory⟩
  · have hbudget := h.budget
    rw [List.length_cons]
    omega

section Step

variable (ht : t.WellFormed) (hdir : dir.Proper) {listed : List Listed}
  (hlisted : t.list dir = .ok listed) {kinds : List (Path × Kind)}
  (hkinds : List.Forall₂ (fun (l : Listed) x => x.1 = l.path ∧ kindOf t l = .ok x.2) listed kinds)

include ht hdir hlisted hkinds

/-- The entries of a directory of one kind. -/
theorem mem_pathsOf_iff {k : Kind} (hk : k ≠ .other) {path : Path} :
    path ∈ pathsOf k kinds ↔
      ∃ name, IsFileName name ∧ path = dir.entry name ∧ Kind.ofEnd (t.end? path) = k := by
  obtain ⟨place, hlocate, hplace, hmem⟩ := mem_of_list_eq_ok hlisted
  rw [mem_pathsOf]
  constructor
  · intro h
    obtain ⟨l, hl, hpath, hkind⟩ := hkinds.exists_of_mem_right h
    have hpath' : path = dir.entry l.name := hpath.trans ((hmem l).mp hl).1
    refine ⟨l.name, ht.isFileName_listed hlisted hl, hpath', ?_⟩
    rw [show path = l.path from hpath]
    exact (kindOf_eq_ok ht hdir hlisted hl hkind).symm
  · rintro ⟨name, hname, rfl, hkind⟩
    -- something stands at the end of the path, so the directory has an entry of that name
    obtain ⟨e, he⟩ : ∃ e, t.end? (dir.entry name) = some e := by
      cases hend : t.end? (dir.entry name) with
      | some e => exact ⟨e, rfl⟩
      | none => rw [hend] at hkind; exact absurd hkind.symm hk
    obtain ⟨entry, hentry⟩ := exists_find?_of_end? hdir hlocate hplace hname he
    have hl : ⟨name, dir.entry name, entry⟩ ∈ listed := (hmem _).mpr ⟨rfl, hentry⟩
    obtain ⟨⟨p, k'⟩, hx, hp, hk'⟩ := hkinds.flip.exists_of_mem_right hl
    cases hp
    have hkind' : k' = k := (kindOf_eq_ok ht hdir hlisted hl hk').trans hkind
    rw [← hkind']
    exact hx

/-- The directories at which a walk goes on. -/
theorem mem_entered_iff {p : Path} :
    p ∈ entered t ancestors kinds ↔
      ∃ name, IsFileName name ∧ p = dir.entry name ∧ t.end? p = some .directory ∧
        realPlace t p ∉ ancestors := by
  unfold entered
  rw [List.mem_filter, mem_pathsOf_iff ht hdir hlisted hkinds (by decide)]
  simp only [Bool.not_eq_true', List.contains_eq_mem, decide_eq_false_iff_not,
    Kind.ofEnd_eq_directory]
  constructor
  · rintro ⟨⟨name, hname, hp, hend⟩, hfresh⟩
    exact ⟨name, hname, hp, hend, hfresh⟩
  · rintro ⟨name, hname, hp, hend, hfresh⟩
    exact ⟨⟨name, hname, hp, hend⟩, hfresh⟩

omit hdir in
/-- The entries of one kind are listed in the order of their names, each once. -/
theorem pairwise_pathsOf (k : Kind) : (pathsOf k kinds).Pairwise (· ≠ ·) := by
  obtain ⟨place, hlocate, hplace, hmem⟩ := mem_of_list_eq_ok hlisted
  unfold pathsOf
  rw [List.pairwise_filterMap]
  refine hkinds.pairwise ?_
  refine (ht.pairwise_list hlisted).imp_of_mem fun {a b} ha hb hlt => ?_
  rintro ⟨p, k'⟩ ⟨q, k''⟩ ⟨hp, -⟩ ⟨hq, -⟩ p' hp' q' hq' rfl
  obtain ⟨-, hp'⟩ := Option.ite_none_right_eq_some.mp hp'
  obtain ⟨-, hq'⟩ := Option.ite_none_right_eq_some.mp hq'
  have heq : a.path = b.path := by
    rw [← hp, ← hq]
    exact (Option.some.inj hp').trans (Option.some.inj hq').symm
  rw [((hmem a).mp ha).1, ((hmem b).mp hb).1] at heq
  have hname : a.name = b.name :=
    List.singleton_inj.mp (List.append_cancel_left (congrArg Path.names heq))
  exact hlt.ne hname

end Step

/-- What is listed below an entry of a directory is no entry of it. -/
theorem Lists.ne_entry {k : Kind} {path : Path} {first : String}
    (h : Lists t k ancestors (dir.entry first) path) (name : String) : path ≠ dir.entry name := by
  rintro rfl
  obtain ⟨names, name', -, -, heq, -⟩ := h
  have hnames := List.append_cancel_left
    ((congrArg Path.names heq).trans (List.append_assoc dir.names [first] _))
  simp at hnames

/-- What is listed below an entry of a directory is not listed below another one. -/
theorem Lists.entry_eq {k : Kind} {path : Path} {first first' : String} {ancestors' : List Place}
    (h : Lists t k ancestors (dir.entry first) path)
    (h' : Lists t k ancestors' (dir.entry first') path) : first = first' := by
  obtain ⟨names, name, -, -, rfl, -⟩ := h
  obtain ⟨names', name', -, -, heq, -⟩ := h'
  rw [← below_cons, ← below_cons] at heq
  exact (List.cons.inj (below_injective heq)).1

/-- What a walk lists of one kind: the entries of the directory, and what the walks at the entered
directories list. -/
theorem paths_walk {k : Kind} (hk : k ≠ .other) (kinds : List (Path × Kind))
    (inner : List Listing) :
    (inner.foldl Listing.append ⟨pathsOf .file kinds, pathsOf .directory kinds⟩).paths k =
      pathsOf k kinds ++ inner.flatMap (Listing.paths k) := by
  rw [paths_foldl_append hk]
  cases k with
  | other => exact absurd rfl hk
  | _ => rfl

section Ended

variable (ht : t.WellFormed) {k : Kind} (hk : k ≠ .other)

include ht hk

/-- What a walk that ends lists of one kind. -/
theorem mem_walk_iff (hdir : dir.Proper) (hway : OnTheWay t budget ancestors)
    (h : walk t budget ancestors dir = .ok l) {path : Path} :
    path ∈ l.paths k ↔ Lists t k ancestors dir path := by
  -- along the directories that are on the way; the budget outlasts them
  induction budget generalizing ancestors dir l with
  | zero => exact absurd hway.pos (Nat.lt_irrefl 0)
  | succ budget ih =>
    obtain ⟨listed, kinds, inner, hlisted, hkinds, hinner, rfl⟩ := walk_succ_eq_ok_iff.mp h
    have hentered : ∀ p, p ∈ entered t ancestors kinds ↔ _ := fun p =>
      mem_entered_iff ht hdir hlisted hkinds
    rw [paths_walk hk, lists_iff, List.mem_append, List.mem_flatMap,
      mem_pathsOf_iff ht hdir hlisted hkinds hk]
    refine or_congr_right ⟨?_, ?_⟩
    · rintro ⟨l, hl, hpath⟩
      obtain ⟨p, hp, hwalk⟩ := hinner.exists_of_mem_right hl
      obtain ⟨name, hname, rfl, hend, hfresh⟩ := (hentered p).mp (List.mem_reverse.mp hp)
      have hproper := Path.entry_proper hdir hname.1
      exact ⟨name, hname, hend, hfresh,
        (ih hproper (hway.cons hproper hend hfresh) hwalk).mp hpath⟩
    · rintro ⟨name, hname, hend, hfresh, hlists⟩
      have hp := (hentered _).mpr ⟨name, hname, rfl, hend, hfresh⟩
      obtain ⟨l, hl, hwalk⟩ := hinner.flip.exists_of_mem_right (List.mem_reverse.mpr hp)
      have hproper := Path.entry_proper hdir hname.1
      exact ⟨l, hl, (ih hproper (hway.cons hproper hend hfresh) hwalk).mpr hlists⟩

/-- A walk that ends lists each path once. -/
theorem nodup_walk (hdir : dir.Proper) (hway : OnTheWay t budget ancestors)
    (h : walk t budget ancestors dir = .ok l) : (l.paths k).Nodup := by
  induction budget generalizing ancestors dir l with
  | zero => exact absurd hway.pos (Nat.lt_irrefl 0)
  | succ budget ih =>
    obtain ⟨listed, kinds, inner, hlisted, hkinds, hinner, rfl⟩ := walk_succ_eq_ok_iff.mp h
    have hnodup := pairwise_pathsOf ht hlisted hkinds
    -- the walks at the entered directories list what lies below these, each path once
    have hbelow : ∀ p l, p ∈ (entered t ancestors kinds).reverse →
        walk t budget (realPlace t p :: ancestors) p = .ok l → (l.paths k).Nodup ∧
          ∃ name, p = dir.entry name ∧
            ∀ path ∈ l.paths k, Lists t k (realPlace t p :: ancestors) p path := by
      intro p l hp hwalk
      obtain ⟨name, hname, rfl, hend, hfresh⟩ :=
        (mem_entered_iff ht hdir hlisted hkinds).mp (List.mem_reverse.mp hp)
      have hproper := Path.entry_proper hdir hname.1
      have hway := hway.cons hproper hend hfresh
      exact ⟨ih hproper hway hwalk, name, rfl, fun path =>
        (mem_walk_iff ht hk hproper hway hwalk).mp⟩
    rw [paths_walk hk, List.nodup_append', List.nodup_flatMap]
    refine ⟨hnodup k, ⟨fun l hl => ?_, hinner.pairwise ?_⟩, fun path hpath hpath' => ?_⟩
    · obtain ⟨p, hp, hwalk⟩ := hinner.exists_of_mem_right hl
      exact (hbelow p l hp hwalk).1
    · -- what lies below one entry does not lie below another
      have hne : (entered t ancestors kinds).reverse.Pairwise (· ≠ ·) :=
        List.nodup_reverse.mpr ((hnodup .directory).filter _)
      refine hne.imp_of_mem fun {p q} hp hq hne l l' hl hl' path hpath hpath' => ?_
      obtain ⟨-, name, rfl, hlists⟩ := hbelow p l hp hl
      obtain ⟨-, name', rfl, hlists'⟩ := hbelow q l' hq hl'
      exact hne (congrArg dir.entry ((hlists path hpath).entry_eq (hlists' path hpath')))
    · -- an entry of the directory does not lie below another
      obtain ⟨name, -, rfl, -⟩ := (mem_pathsOf_iff ht hdir hlisted hkinds hk).mp hpath
      obtain ⟨l, hl, hpath'⟩ := List.mem_flatMap.mp hpath'
      obtain ⟨p, hp, hwalk⟩ := hinner.exists_of_mem_right hl
      obtain ⟨-, first, rfl, hlists⟩ := hbelow p l hp hwalk
      exact (hlists _ hpath').ne_entry name rfl

end Ended

/-- It can be told what the entries of a directory lead to. -/
def Scans (t : FileTree) (dir : Path) : Prop :=
  ∃ listed, t.list dir = .ok listed ∧ ∀ l ∈ listed, ∃ k, kindOf t l = .ok k

/-- It can be computed whether a directory can be scanned. -/
instance (t : FileTree) (dir : Path) : Decidable (Scans t dir) :=
  decidable_of_iff ((match t.list dir with
    | .ok listed => listed.all fun l => (kindOf t l).isOk
    | .error _ => false) = true) <| by
    unfold Scans
    cases t.list dir with
    | error f => simp
    | ok listed =>
      simp only [List.all_eq_true, Except.ok.injEq, exists_eq_left']
      refine forall₂_congr fun l _ => ?_
      cases kindOf t l <;> simp [Except.isOk, Except.toBool]

/-- A walk ends if all directories that it enters can be scanned. -/
theorem walk_ok (ht : t.WellFormed) (hdir : dir.Proper)
    (hscan : ∀ names, (∀ n ∈ names, IsFileName n) → Enters t ancestors dir names →
      Scans t (below dir names)) :
    ∃ l, walk t budget ancestors dir = .ok l := by
  induction budget generalizing ancestors dir with
  | zero => exact ⟨{}, rfl⟩
  | succ budget ih =>
    obtain ⟨listed, hlisted, hkind⟩ := hscan [] (fun n hn => (nomatch hn)) trivial
    rw [below_nil] at hlisted
    obtain ⟨kinds, hkinds⟩ : ∃ kinds : List (Path × Kind), List.Forall₂
        (fun (l : Listed) x => x.1 = l.path ∧ kindOf t l = .ok x.2) listed kinds := by
      apply List.exists_forall₂
      intro l hl
      obtain ⟨k, hk⟩ := hkind l hl
      exact ⟨(l.path, k), rfl, hk⟩
    obtain ⟨inner, hinner⟩ : ∃ inner, List.Forall₂
        (fun p l => walk t budget (realPlace t p :: ancestors) p = .ok l)
        (entered t ancestors kinds).reverse inner := by
      apply List.exists_forall₂
      intro p hp
      obtain ⟨name, hname, rfl, hend, hfresh⟩ :=
        (mem_entered_iff ht hdir hlisted hkinds).mp (List.mem_reverse.mp hp)
      refine ih (Path.entry_proper hdir hname.1) fun names hnames henters => ?_
      rw [← below_cons]
      exact hscan _ (List.forall_mem_cons.mpr ⟨hname, hnames⟩) ⟨hend, hfresh, henters⟩
    exact ⟨_, walk_succ_eq_ok_iff.mpr ⟨listed, kinds, inner, hlisted, hkinds, hinner, rfl⟩⟩

/-- All directories that a walk enters can be scanned, if it ends. -/
theorem scans_of_walk_eq_ok (ht : t.WellFormed) (hdir : dir.Proper)
    (hway : OnTheWay t budget ancestors) (h : walk t budget ancestors dir = .ok l)
    {names : List String} (hnames : ∀ n ∈ names, IsFileName n)
    (henters : Enters t ancestors dir names) : Scans t (below dir names) := by
  induction names generalizing budget ancestors dir l with
  | nil =>
    obtain ⟨budget, rfl⟩ : ∃ b, budget = b + 1 := Nat.exists_eq_add_one.mpr hway.pos
    obtain ⟨listed, kinds, inner, hlisted, hkinds, -⟩ := walk_succ_eq_ok_iff.mp h
    rw [below_nil]
    refine ⟨listed, hlisted, fun l hl => ?_⟩
    obtain ⟨x, -, -, hk⟩ := hkinds.flip.exists_of_mem_right hl
    exact ⟨x.2, hk⟩
  | cons name names ih =>
    obtain ⟨budget, rfl⟩ : ∃ b, budget = b + 1 := Nat.exists_eq_add_one.mpr hway.pos
    obtain ⟨listed, kinds, inner, hlisted, hkinds, hinner, -⟩ := walk_succ_eq_ok_iff.mp h
    obtain ⟨hname, hnames⟩ := List.forall_mem_cons.mp hnames
    obtain ⟨hend, hfresh, henters⟩ := henters
    have hentered := (mem_entered_iff ht hdir hlisted hkinds).mpr
      ⟨name, hname, rfl, hend, hfresh⟩
    obtain ⟨l, -, hwalk⟩ := hinner.flip.exists_of_mem_right (List.mem_reverse.mpr hentered)
    have hproper := Path.entry_proper hdir hname.1
    rw [below_cons]
    exact ih hproper (hway.cons hproper hend hfresh) hwalk hnames henters

end Walk

end AgentPackage.Index
