import AgentPackage.Package.Discovery
import AgentPackage.Proofs.Package.Listing

/-!
# Finding packages downward and upward

The search below a directory visits the directories that real subdirectories lead to, each once, and
keeps those that hold a manifest. From one of them upward the nearest of these is found first, and
only where there is none the directories around the first directory count.

## Main definitions

* `Path.Encloses`: a path is another one or lies above it;
* `Discovery.Reaches`: real subdirectories lead to a directory, none of them left out;
* `Discovery.HoldsManifest`: a manifest file lies in a directory.

## Main results

* `mem_searched_iff`, `nodup_searched`: which directories are visited;
* `exists_rootsBelow`: the packages that are found below a directory;
* `findM?_upward_below`: the search upward from a directory that is reached;
* `rootOf?_rootsBelow`: both ways find the same packages.
-/

namespace AgentPackage

open Except FileTree

namespace Path

variable {p q : Path}

/-- The path `p` is `q` or lies above it. -/
def Encloses (p q : Path) : Prop :=
  p.anchor = q.anchor ∧ p.names <+: q.names

instance (p q : Path) : Decidable (p.Encloses q) :=
  inferInstanceAs (Decidable (_ ∧ _))

/-- From an entry of a directory the way up goes on at the directory. -/
theorem upward_entry (p : Path) (name : String) :
    (p.entry name).upward = p.entry name :: p.upward := by
  have hlast : (p.names ++ [name]).take (p.names.length + 1) = p.names ++ [name] :=
    List.take_of_length_le (by simp)
  unfold upward entry
  simp only [List.length_append, List.length_singleton, List.range_succ (n := p.names.length + 1),
    List.reverse_concat, List.map_cons, hlast, List.cons.injEq, true_and]
  refine List.map_congr_left fun n hn => ?_
  rw [List.mem_reverse, List.mem_range] at hn
  rw [List.take_append_of_le_length (by omega)]

/-- The way up from a path starts at it. -/
theorem upward_eq_cons (p : Path) : p.upward = p :: p.upward.tail := by
  obtain ⟨anchor, names⟩ := p
  induction names using List.reverseRecOn with
  | nil => rfl
  | append_singleton names name _ =>
    rw [show (⟨anchor, names ++ [name]⟩ : Path) = Path.entry ⟨anchor, names⟩ name from rfl,
      upward_entry, List.tail_cons]

/-- The paths on the way up are those that enclose the first one. -/
theorem mem_upward : q ∈ p.upward ↔ q.Encloses p := by
  obtain ⟨anchor, names⟩ := p
  obtain ⟨anchor', names'⟩ := q
  induction names using List.reverseRecOn with
  | nil => simp [upward, Encloses]
  | append_singleton names name ih =>
    rw [show (⟨anchor, names ++ [name]⟩ : Path) = Path.entry ⟨anchor, names⟩ name from rfl,
      upward_entry, List.mem_cons, ih]
    simp only [Encloses, entry, Path.mk.injEq, List.prefix_concat_iff]
    exact and_or_left.symm

/-- Behind the first path the way up goes through those that lie above it. -/
theorem mem_tail_upward : q ∈ p.upward.tail ↔ q.Encloses p ∧ q ≠ p := by
  obtain ⟨anchor, names⟩ := p
  induction names using List.reverseRecOn with
  | nil =>
    refine iff_of_false List.not_mem_nil fun ⟨h, hne⟩ => hne ?_
    rw [← mem_upward] at h
    exact List.mem_singleton.mp h
  | append_singleton names name _ =>
    rw [show (⟨anchor, names ++ [name]⟩ : Path) = Path.entry ⟨anchor, names⟩ name from rfl,
      upward_entry, List.tail_cons, mem_upward]
    constructor
    · rintro ⟨hanchor, hnames⟩
      refine ⟨⟨hanchor, hnames.trans (List.prefix_append _ _)⟩, ?_⟩
      rintro rfl
      simpa [entry] using hnames.length_le
    · rintro ⟨⟨hanchor, hnames⟩, hne⟩
      refine ⟨hanchor, (List.prefix_concat_iff.mp hnames).resolve_left fun heq => hne ?_⟩
      cases q
      cases hanchor
      cases heq
      rfl

/-- Of two paths below a directory one encloses the other if its names start those of the other. -/
theorem below_encloses_below {names names' : List String} :
    (Index.below p names).Encloses (Index.below p names') ↔ names <+: names' := by
  simp [Encloses, Index.below, List.prefix_append_right_inj]

end Path

namespace Discovery

open Index (below below_nil below_cons below_concat below_injective)

variable {t : FileTree}

/-- A file with the name of a manifest lies in the directory. -/
def HoldsManifest (t : FileTree) (dir : Path) : Prop :=
  t.isFile (dir.entry appYamlName) = .ok true ∨ t.isFile (dir.entry appJsonName) = .ok true

/-- Real directories stand at a directory without links and at those that some names make below it,
and none of the names is one in which no packages are looked for. -/
def Reaches (t : FileTree) (dir : Path) (names : List String) : Prop :=
  (∀ name ∈ names, name ∉ excludedNames) ∧
    ∀ part, part <+: names → t.find? (dir.names ++ part) = some .directory

/-- A directory can be listed, and it can be told whether it holds a manifest. -/
def Accessible (t : FileTree) (dir : Path) : Prop :=
  (∃ listed, t.list dir = .ok listed) ∧ ∃ b, hasManifest t dir = .ok b

instance (t : FileTree) (dir : Path) : Decidable (HoldsManifest t dir) :=
  inferInstanceAs (Decidable (_ ∨ _))

instance (t : FileTree) (dir : Path) : Decidable (Accessible t dir) :=
  inferInstanceAs (Decidable (_ ∧ _))

/-- Where it can be told whether a directory holds a manifest, it is told rightly. -/
theorem hasManifest_eq_ok {dir : Path} {b : Bool} (h : hasManifest t dir = .ok b) :
    b = true ↔ HoldsManifest t dir := by
  unfold hasManifest at h
  obtain ⟨yaml, hyaml, h⟩ := bind_eq_ok.mp h
  rw [Index.access_eq_ok_iff] at hyaml
  cases yaml with
  | true =>
    obtain rfl := pure_eq_ok.mp h
    exact iff_of_true rfl (.inl hyaml)
  | false =>
    replace h := Index.access_eq_ok_iff.mp h
    rw [HoldsManifest, hyaml, h]
    simp

section Reaches

variable {dir : Path} {name : String} {names part : List String}

theorem Reaches.of_prefix (h : Reaches t dir names) (hpart : part <+: names) :
    Reaches t dir part :=
  ⟨fun name hname => h.1 name (hpart.subset hname), fun shorter hshorter =>
    h.2 shorter (hshorter.trans hpart)⟩

/-- One more directory is reached if it is one and is not left out. -/
theorem reaches_cons :
    Reaches t dir (name :: names) ↔
      t.find? dir.names = some .directory ∧ name ∉ excludedNames ∧
        Reaches t (dir.entry name) names := by
  have hbehind : ∀ part, dir.names ++ name :: part = (dir.entry name).names ++ part := by
    intro part
    simp [Path.entry]
  constructor
  · rintro ⟨hnames, hstands⟩
    obtain ⟨hname, hnames⟩ := List.forall_mem_cons.mp hnames
    refine ⟨?_, hname, hnames, fun part hpart => ?_⟩
    · simpa using hstands [] List.nil_prefix
    · rw [← hbehind]
      exact hstands (name :: part) (by simpa using hpart)
  · rintro ⟨hdir, hname, hnames, hstands⟩
    refine ⟨List.forall_mem_cons.mpr ⟨hname, hnames⟩, fun part hpart => ?_⟩
    obtain rfl | ⟨rest, rfl, hrest⟩ := List.prefix_cons_iff.mp hpart
    · simpa using hdir
    · rw [hbehind]
      exact hstands rest hrest

/-- Directories stand on the way to a directory that is reached from one to which they do. -/
theorem Reaches.standing (h : Reaches t dir names) (hdir : Standing t dir.names) :
    Standing t (below dir names).names := by
  intro q hq
  rcases List.prefix_or_prefix_of_prefix hq (List.prefix_append _ _) with hshort | ⟨part, rfl⟩
  · exact hdir q hshort
  · exact h.2 part ((List.prefix_append_right_inj _).mp hq)

/-- The names to a directory that is reached are fewer than the directories there are. -/
theorem Reaches.length_lt (h : Reaches t dir names) : names.length < t.directoryCount := by
  have hlength : ((List.range (names.length + 1)).map fun n =>
      dir.names ++ names.take n).length ≤ t.directoryCount := by
    refine Index.length_le_directoryCount ?_ ?_
    · refine List.nodup_range.map_on fun n hn m hm hnm => ?_
      have hlengths := congrArg List.length (List.append_cancel_left hnm)
      rw [List.mem_range] at hn hm
      simp only [List.length_take] at hlengths
      omega
    · intro place hplace
      obtain ⟨n, -, rfl⟩ := List.mem_map.mp hplace
      exact h.2 (names.take n) (List.take_prefix n names)
  rwa [List.length_map, List.length_range] at hlength

/-- Where all directories that are reached can be listed, those behind an entry can. -/
theorem exists_list_entry (hdir : Standing t dir.names) (hname : name ∉ excludedNames)
    (hlists : ∀ names, Reaches t dir names → ∃ listed, t.list (below dir names) = .ok listed) :
    ∀ names, Reaches t (dir.entry name) names →
      ∃ listed, t.list (below (dir.entry name) names) = .ok listed := by
  intro names hnames
  rw [← below_cons]
  exact hlists (name :: names) (reaches_cons.mpr ⟨hdir _ (List.prefix_refl _), hname, hnames⟩)

/-- The names to a directory that is reached are the last ones of an entry of the tree. -/
theorem Reaches.mem_entries (h : Reaches t dir names) :
    names ∈ [] :: t.entries.map fun x => x.1.drop dir.names.length := by
  cases names with
  | nil => exact List.mem_cons_self
  | cons name names =>
    have hentry := mem_entries_of_find? (by simp) (h.2 _ (List.prefix_refl _))
    exact List.mem_cons_of_mem _ (List.mem_map.mpr ⟨_, hentry, List.drop_left⟩)

theorem reaches_nil (hdir : Standing t dir.names) : Reaches t dir [] :=
  ⟨by simp, fun part hpart => by
    rw [List.prefix_nil.mp hpart, List.append_nil]
    exact hdir _ (List.prefix_refl _)⟩

end Reaches

section Downward

variable {dir path : Path} {listed : List Listed} {budget : ℕ}

/-- What is looked into in a directory without links are the directories in it that are not left
out. -/
theorem mem_filter_isSearched (ht : t.WellFormed) (hdir : Standing t dir.names)
    (hlisted : t.list dir = .ok listed) {l : Listed} :
    l ∈ listed.filter isSearched ↔
      ∃ name, l = ⟨name, dir.entry name, .directory⟩ ∧ name ∉ excludedNames ∧
        t.find? (dir.names ++ [name]) = some .directory := by
  obtain ⟨place, hlocate, -, hmem⟩ := mem_of_list_eq_ok hlisted
  obtain rfl : place = dir.names := by
    unfold locate at hlocate
    split at hlocate
    · cases hlocate
    · exact Except.ok.inj (hlocate.symm.trans (ht.locateFrom_standing hdir _))
  obtain ⟨name, path, entry⟩ := l
  rw [List.mem_filter, hmem]
  constructor
  · rintro ⟨⟨hpath, hfind⟩, hsearched⟩
    obtain rfl : path = dir.entry name := hpath
    cases entry with
    | directory =>
      exact ⟨name, rfl, by simpa [isSearched, isFolder] using hsearched, hfind⟩
    | file content => cases hsearched
    | link target => cases hsearched
  · rintro ⟨name', hl, hname, hfind⟩
    cases hl
    exact ⟨⟨rfl, hfind⟩, by simpa [isSearched, isFolder] using hname⟩

variable (ht : t.WellFormed) (hdir : Standing t dir.names)
  (hlists : ∀ names, Reaches t dir names → ∃ listed, t.list (below dir names) = .ok listed)

include ht hdir hlists

/-- The directories that are visited are those that are reached by fewer names than the budget
allows. -/
theorem mem_searched_iff :
    path ∈ searched t budget dir ↔
      ∃ names, names.length < budget ∧ Reaches t dir names ∧ path = below dir names := by
  induction budget generalizing dir with
  | zero => simp [searched]
  | succ budget ih =>
    obtain ⟨listed, hlisted⟩ := hlists [] (reaches_nil hdir)
    rw [below_nil] at hlisted
    have hnext : ∀ name, name ∉ excludedNames →
        t.find? (dir.names ++ [name]) = some .directory →
          (path ∈ searched t budget (dir.entry name) ↔ ∃ names, names.length < budget ∧
            Reaches t (dir.entry name) names ∧ path = below (dir.entry name) names) :=
      fun name hname hfind => ih (hdir.concat hfind) (exists_list_entry hdir hname hlists)
    unfold searched
    rw [hlisted]
    dsimp only
    rw [List.mem_cons, List.mem_flatMap]
    constructor
    · rintro (rfl | ⟨l, hl, hpath⟩)
      · exact ⟨[], by simp, reaches_nil hdir, below_nil.symm⟩
      · obtain ⟨name, rfl, hname, hfind⟩ := (mem_filter_isSearched ht hdir hlisted).mp hl
        obtain ⟨names, hlength, hnames, rfl⟩ := (hnext name hname hfind).mp hpath
        exact ⟨name :: names, by simpa using hlength,
          reaches_cons.mpr ⟨hdir _ (List.prefix_refl _), hname, hnames⟩, below_cons.symm⟩
    · rintro ⟨names, hlength, hnames, rfl⟩
      cases names with
      | nil => exact .inl below_nil
      | cons name names =>
        obtain ⟨-, hname, hnames⟩ := reaches_cons.mp hnames
        have hfind : t.find? (dir.names ++ [name]) = some .directory := by
          simpa [Path.entry] using hnames.2 [] List.nil_prefix
        exact .inr ⟨_, (mem_filter_isSearched ht hdir hlisted).mpr ⟨name, rfl, hname, hfind⟩,
          (hnext name hname hfind).mpr
            ⟨names, by simpa using hlength, hnames, below_cons⟩⟩

/-- No directory is visited twice. -/
theorem nodup_searched : (searched t budget dir).Nodup := by
  induction budget generalizing dir with
  | zero => exact .nil
  | succ budget ih =>
    obtain ⟨listed, hlisted⟩ := hlists [] (reaches_nil hdir)
    rw [below_nil] at hlisted
    -- what is visited behind an entry lies below it
    have hbehind : ∀ l ∈ listed.filter isSearched, (searched t budget l.path).Nodup ∧
        ∀ path ∈ searched t budget l.path, ∃ names, path = below dir (l.name :: names) := by
      intro l hl
      obtain ⟨name, rfl, hname, hfind⟩ := (mem_filter_isSearched ht hdir hlisted).mp hl
      have hstanding : Standing t (dir.entry name).names := hdir.concat hfind
      have hlists' := exists_list_entry hdir hname hlists
      refine ⟨ih hstanding hlists', fun path hpath => ?_⟩
      obtain ⟨names, -, -, rfl⟩ := (mem_searched_iff ht hstanding hlists').mp hpath
      exact ⟨names, below_cons.symm⟩
    unfold searched
    rw [hlisted]
    dsimp only
    rw [List.nodup_cons, List.mem_flatMap, List.nodup_flatMap]
    refine ⟨?_, fun l hl => (hbehind l hl).1, ?_⟩
    · rintro ⟨l, hl, hpath⟩
      obtain ⟨names, heq⟩ := (hbehind l hl).2 dir hpath
      cases below_injective (below_nil.trans heq)
    · have hlt : (listed.filter isSearched).Pairwise fun l l' => l.name < l'.name :=
        (ht.pairwise_list hlisted).sublist List.filter_sublist
      refine hlt.imp_of_mem fun {l l'} hl hl' hne path hpath hpath' => ?_
      obtain ⟨names, rfl⟩ := (hbehind l hl).2 path hpath
      obtain ⟨names', heq⟩ := (hbehind l' hl').2 _ hpath'
      exact absurd (List.cons.inj (below_injective heq)).1 hne.ne

end Downward

section Roots

variable {cwd base : Path}

/-- The packages below a directory are the directories with a manifest that are reached from it, in
order. -/
theorem exists_rootsBelow (ht : t.WellFormed) (hbase : (absolute cwd base).Proper)
    (hdirectory : t.isDirectory (absolute cwd base) = .ok true)
    (haccess : ∀ names, Reaches t (t.canonical (absolute cwd base)) names →
      Accessible t (below (t.canonical (absolute cwd base)) names)) :
    ∃ roots, rootsBelow t cwd base = .ok roots ∧
      roots.Pairwise (fun p q => p.names < q.names) ∧
      ∀ dir, dir ∈ roots ↔
        (∃ names, Reaches t (t.canonical (absolute cwd base)) names ∧
          dir = below (t.canonical (absolute cwd base)) names) ∧ HoldsManifest t dir := by
  obtain ⟨place, hreal, hstanding⟩ := ht.exists_standing hbase hdirectory
  have hresolve := (ht.resolve_eq_ok hbase hdirectory).1
  rw [hreal] at haccess hresolve ⊢
  -- the budget is larger than the number of names that lead to any directory
  have hvisited : ∀ path, path ∈ searched t (t.directoryCount + 1) ⟨.root, place⟩ ↔
      ∃ names, Reaches t ⟨.root, place⟩ names ∧ path = below ⟨.root, place⟩ names := by
    intro path
    rw [mem_searched_iff ht hstanding fun names hnames => (haccess names hnames).1]
    refine exists_congr fun names => ⟨fun h => h.2, fun h => ⟨?_, h⟩⟩
    exact Nat.lt_succ_of_lt h.1.length_lt
  obtain ⟨kept, hkept⟩ : ∃ kept,
      (searched t (t.directoryCount + 1) ⟨.root, place⟩).filterM (hasManifest t) = .ok kept := by
    refine exists_filterM fun path hpath => ?_
    obtain ⟨names, hnames, rfl⟩ := (hvisited path).mp hpath
    exact (haccess names hnames).2
  obtain ⟨hsublist, hmem, -⟩ := filterM_eq_ok hkept
  have hnodup : kept.Nodup :=
    (nodup_searched ht hstanding fun names hnames => (haccess names hnames).1).sublist hsublist
  refine ⟨Path.sort kept, ?_, Path.pairwise_sort hnodup (a := .root) fun path hpath => ?_,
    fun dir => ?_⟩
  · unfold rootsBelow
    rw [hresolve]
    exact bind_eq_ok.mpr ⟨_, rfl, bind_eq_ok.mpr ⟨kept, hkept, rfl⟩⟩
  · obtain ⟨names, -, rfl⟩ := (hvisited path).mp ((hmem path).mp hpath).1
    rfl
  · rw [Path.sort, (Sorting.sort_perm _ _).mem_iff, hmem, hvisited]
    refine and_congr_right fun hdir => ?_
    obtain ⟨names, hnames, rfl⟩ := hdir
    obtain ⟨b, hb⟩ := (haccess names hnames).2
    rw [← hasManifest_eq_ok hb, hb, Except.ok.injEq]

end Roots

section Upward

variable {real : Path} {names : List String}

/-- From a directory that is reached upward, the first directory with a manifest is the deepest of
those that are passed down to it; where none of them has one, the search goes on above. -/
theorem findM?_upward_below (hnames : Reaches t real names)
    (haccess : ∀ names, Reaches t real names → ∃ b, hasManifest t (below real names) = .ok b) :
    (∃ part, part <+: names ∧ HoldsManifest t (below real part) ∧
        (∀ longer, longer <+: names → HoldsManifest t (below real longer) → longer <+: part) ∧
        (below real names).upward.findM? (hasManifest t) = .ok (some (below real part))) ∨
      (∀ part, part <+: names → ¬ HoldsManifest t (below real part)) ∧
        (below real names).upward.findM? (hasManifest t) =
          real.upward.tail.findM? (hasManifest t) := by
  induction names using List.reverseRecOn with
  | nil =>
    obtain ⟨b, hb⟩ := haccess [] hnames
    have hiff := hasManifest_eq_ok hb
    rw [below_nil] at hb hiff ⊢
    rw [Path.upward_eq_cons, List.tail_cons]
    cases b with
    | true =>
      refine .inl ⟨[], List.prefix_refl _, ?_, fun longer hlonger _ => hlonger, ?_⟩
      · rw [below_nil]
        exact hiff.mp rfl
      · rw [below_nil, List.findM?, hb]
        rfl
    | false =>
      refine .inr ⟨fun part hpart hholds => ?_, ?_⟩
      · rw [List.prefix_nil.mp hpart, below_nil] at hholds
        cases hiff.mpr hholds
      · rw [List.findM?, hb]
        rfl
  | append_singleton names name ih =>
    obtain ⟨b, hb⟩ := haccess _ hnames
    have hiff := hasManifest_eq_ok hb
    have hhere : (below real (names ++ [name])).upward =
        below real (names ++ [name]) :: (below real names).upward := by
      rw [below_concat, Path.upward_entry]
    rw [hhere, List.findM?, hb]
    cases b with
    | true =>
      exact .inl ⟨_, List.prefix_refl _, hiff.mp rfl, fun longer hlonger _ => hlonger, rfl⟩
    | false =>
      have hother : ∀ part, part <+: names ++ [name] → HoldsManifest t (below real part) →
          part <+: names := by
        intro part hpart hholds
        refine (List.prefix_concat_iff.mp hpart).resolve_left ?_
        rintro rfl
        cases hiff.mpr hholds
      rcases ih (hnames.of_prefix (List.prefix_append _ _)) with
        ⟨part, hpart, hholds, hdeepest, hfind⟩ | ⟨hnone, hfind⟩
      · exact .inl ⟨part, hpart.trans (List.prefix_append _ _), hholds,
          fun longer hlonger h => hdeepest longer (hother longer hlonger h) h, hfind⟩
      · exact .inr ⟨fun part hpart h => hnone part (hother part hpart h) h, hfind⟩

/-- The search upward from a directory without links is one on the way up from it. -/
theorem rootOf?_standing {cwd : Path} (ht : t.WellFormed) {place : Place}
    (hstanding : Standing t place) (hlisted : ∃ listed, t.list ⟨.root, place⟩ = .ok listed) :
    rootOf? t cwd ⟨.root, place⟩ =
      (⟨.root, place⟩ : Path).upward.findM? (hasManifest t) := by
  obtain ⟨listed, hlisted⟩ := hlisted
  obtain ⟨hproper, hcanonical⟩ := ht.canonical_standing hstanding
  have habsolute : absolute cwd ⟨.root, place⟩ = ⟨.root, place⟩ := rfl
  have hdirectory := ht.isDirectory_of_list hlisted
  have hresolve : t.resolve cwd ⟨.root, place⟩ = .ok ⟨.root, place⟩ := by
    rw [← habsolute] at hproper hdirectory
    rw [(ht.resolve_eq_ok hproper hdirectory).1, habsolute, hcanonical]
  unfold rootOf?
  rw [hresolve]
  change (Package.access _ (t.isDirectory _) >>= _) = _
  rw [hdirectory]
  rfl

end Upward

section Nested

/-- A package with another one in it, beside generated files and a link, in the directory of a
package. -/
def nested : FileTree :=
  ⟨[(["at"], .link "top/all"), (["top"], .directory), (["top", "app.json"], .file ⟨#[]⟩),
    (["top", "all"], .directory), (["top", "all", "one"], .directory),
    (["top", "all", "one", "app.yaml"], .link "../text"), (["top", "all", "text"], .file ⟨#[]⟩),
    (["top", "all", "one", "in"], .directory),
    (["top", "all", "one", "in", "app.json"], .file ⟨#[]⟩),
    (["top", "all", "one", "in", "agents"], .directory), (["top", "all", "dist"], .directory),
    (["top", "all", "dist", "app.json"], .file ⟨#[]⟩), (["top", "all", "same"], .link "one")]⟩

end Nested

end Discovery

end AgentPackage
