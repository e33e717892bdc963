import AgentPackage.FileTree.Read
import AgentPackage.Proofs.Except
import AgentPackage.Proofs.FileTree.Following
import AgentPackage.Proofs.Sorting

/-!
# What directories list

A directory lists each of its entries once, in the order of the names. What a listed entry leads to
is what stands at the end of its path. This is said of trees that could stand on a disk: no place
holds two entries, and all names could be those of files.

## Main definitions

* `FileTree.WellFormed`: a tree that could stand on a disk;
* `FileTree.end?`: what stands at the end of a path, however long its text is.

## Main results

* `mem_of_list_eq_ok`, `WellFormed.pairwise_list`: what is listed, and in which order;
* `leadsTo_eq_ok`, `probe_eq_ok`: what listed entries and paths lead to, where that can be told.
-/

namespace AgentPackage.FileTree

/-- The text can be the name of a file: it is no way to a directory, holds no slash and no NUL
character, and is not too long. -/
def IsFileName (name : String) : Prop :=
  Path.IsName name ∧ name ≠ ".." ∧ (∀ c ∈ name.toList, c.toNat ≠ 0) ∧
    name.utf8ByteSize ≤ nameByteLimit

-- the characters are gone through one by one: there is an instance that tries all that exist
instance (name : String) : Decidable (IsFileName name) :=
  haveI : Decidable (∀ c ∈ name.toList, c.toNat ≠ 0) := List.decidableBAll _ _
  inferInstanceAs (Decidable (_ ∧ _ ∧ _ ∧ _))

/-- The tree could stand on a disk. -/
structure WellFormed (t : FileTree) : Prop where
  /-- No place holds two entries. -/
  nodup : (t.entries.map Prod.fst).Nodup
  /-- All names can be those of files. -/
  isFileName : ∀ x ∈ t.entries, ∀ name ∈ x.1, IsFileName name

/-- It can be computed whether a tree could stand on a disk. -/
instance (t : FileTree) : Decidable t.WellFormed :=
  decidable_of_iff
    ((t.entries.map Prod.fst).Nodup ∧ ∀ x ∈ t.entries, ∀ name ∈ x.1, IsFileName name)
    ⟨fun h => ⟨h.1, h.2⟩, fun h => ⟨h.nodup, h.isFileName⟩⟩

/-- What stands at the end of a path, links being followed, however long the text of the path is. -/
def end? (t : FileTree) (p : Path) : Option Entry :=
  match t.locateFrom true linkLimit [] p.names with
  | .ok place => t.find? place
  | .error _ => none

variable {t : FileTree}

section Ends

variable {p : Path} {e : Entry}

/-- What a path leads to stands at the place that it leads to. -/
theorem stat_eq_ok_iff :
    t.stat p = .ok e ↔ ∃ place, t.locate p = .ok place ∧ t.find? place = some e := by
  unfold stat
  rw [Except.bind_eq_ok]
  refine exists_congr fun place => and_congr_right fun _ => ?_
  cases t.find? place with
  | none => exact ⟨fun h => (nomatch h), fun h => (nomatch h)⟩
  | some e' => rw [Except.pure_eq_ok, Option.some.injEq]

theorem end?_of_stat (h : t.stat p = .ok e) : t.end? p = some e := by
  obtain ⟨place, hplace, hfind⟩ := stat_eq_ok_iff.mp h
  unfold locate at hplace
  split at hplace
  · cases hplace
  · unfold end?
    rw [hplace]
    exact hfind

/-- What stands at the end of a path stands at the place of the path without links. -/
theorem find?_canonical (hp : p.Proper) (h : t.end? p = some e) :
    t.find? (t.canonical p).names = some e := by
  unfold end? at h
  split at h
  · rename_i place hplace
    rw [canonical_of_locateFrom hp hplace]
    exact h
  · cases h

/-- Where nothing is found, other than because of a name that is too long, nothing stands. -/
theorem end?_of_stat_eq_error {error : AccessError} (h : t.stat p = .error error)
    (hlong : error ≠ .nameTooLong) : t.end? p = none := by
  unfold stat locate at h
  unfold end?
  split at h
  · cases h
    exact absurd rfl hlong
  · cases hplace : t.locateFrom true linkLimit [] p.names with
    | error e => rfl
    | ok place =>
      rw [hplace] at h
      dsimp only
      cases hfind : t.find? place with
      | none => rfl
      | some e => simp [bind, Except.bind, hfind, pure, Except.pure] at h

/-- A question about a path that can be answered is answered by what stands at its end. -/
theorem probe_eq_ok {test : Entry → Bool} {b : Bool} (hname : isNameable p = true)
    (h : t.probe test p = .ok b) : b = (t.end? p).any test := by
  unfold probe at h
  rw [hname] at h
  cases hstat : t.stat p with
  | ok e =>
    rw [hstat] at h
    cases h
    rw [end?_of_stat hstat]
    rfl
  | error error =>
    rw [hstat] at h
    -- all other errors say that nothing is there
    have hb : error ≠ .nameTooLong ∧ b = false := by
      cases error <;> cases h <;> exact ⟨by decide, rfl⟩
    rw [end?_of_stat_eq_error hstat hb.1, hb.2]
    rfl

/-- A path at whose end something is found is nameable, and the entry that it leads to is what is
looked for. -/
theorem probe_eq_true {test : Entry → Bool} (h : t.probe test p = .ok true) :
    isNameable p = true ∧ ∃ e, t.stat p = .ok e ∧ test e = true := by
  unfold probe at h
  cases hname : isNameable p with
  | false => rw [hname] at h; cases h
  | true =>
    rw [hname] at h
    cases hstat : t.stat p with
    | error error => rw [hstat] at h; cases error <;> cases h
    | ok e =>
      rw [hstat] at h
      exact ⟨rfl, e, rfl, Except.ok.inj h⟩

/-- A path at whose end a directory is found is nameable and leads to the directory. -/
theorem isDirectory_eq_true (h : t.isDirectory p = .ok true) :
    isNameable p = true ∧ ∃ place, t.locate p = .ok place ∧ t.find? place = some .directory := by
  obtain ⟨hname, e, hstat, hfolder⟩ := probe_eq_true h
  cases e with
  | directory => exact ⟨hname, stat_eq_ok_iff.mp hstat⟩
  | _ => cases hfolder

/-- The names in a tree that could stand on a disk could be those of files. -/
theorem WellFormed.proper (ht : t.WellFormed) : t.Proper :=
  fun x hx name hname => (ht.isFileName x hx name hname).1

theorem WellFormed.nameable (ht : t.WellFormed) :
    ∀ x ∈ t.entries, ∀ s ∈ x.1, ∀ c ∈ s.toList, c.toNat ≠ 0 :=
  fun x hx s hs => (ht.isFileName x hx s hs).2.2.1

/-- A path at whose end something stands is nameable. -/
theorem WellFormed.isNameable (ht : t.WellFormed) (h : t.end? p = some e) :
    isNameable p = true := by
  unfold end? at h
  split at h
  · rename_i hplace
    exact isNameable_of_locateFrom ht.nameable hplace
  · cases h

/-- Something stands only below directories. -/
theorem WellFormed.end?_of_append (ht : t.WellFormed) {a : Anchor} {names rest : List String}
    (hrest : rest ≠ []) (h : t.end? ⟨a, names ++ rest⟩ = some e) :
    t.end? ⟨a, names⟩ = some .directory := by
  unfold end? at h ⊢
  split at h
  · rename_i hplace
    obtain ⟨d, hd, hstanding⟩ :=
      exists_locateFrom_of_append ht.nameable hrest standing_nil hplace
    rw [hd]
    exact hstanding d (List.prefix_refl d)
  · cases h

/-- A question that can be answered is answered by what stands at the end of the path. -/
theorem WellFormed.probe_eq_ok (ht : t.WellFormed) {test : Entry → Bool} {b : Bool}
    (h : t.probe test p = .ok b) : b = (t.end? p).any test := by
  cases hname : FileTree.isNameable p with
  | true => exact FileTree.probe_eq_ok hname h
  | false =>
    unfold probe at h
    rw [hname] at h
    cases h
    cases hend : t.end? p with
    | none => rfl
    | some e => cases hname.symm.trans (ht.isNameable hend)

/-- The path without links of a path that leads to a directory is that of the place at which the
directory stands, and directories stand on the way to it. -/
theorem WellFormed.exists_standing (ht : t.WellFormed) (hp : p.Proper)
    (h : t.isDirectory p = .ok true) :
    ∃ place, t.canonical p = ⟨.root, place⟩ ∧ Standing t place := by
  obtain ⟨-, place, hlocate, hplace⟩ := isDirectory_eq_true h
  unfold locate at hlocate
  split at hlocate
  · cases hlocate
  · exact ⟨place, canonical_of_locateFrom hp hlocate,
      standing_of_locateFrom ht.nameable (fun s hs => (hp s hs).1) standing_nil hlocate hplace⟩

/-- The names of a place at which something stands can be those of files. -/
theorem WellFormed.isFileName_of_find? (ht : t.WellFormed) {place : Place}
    (h : t.find? place = some e) : ∀ name ∈ place, IsFileName name := fun name hname =>
  ht.isFileName _ (mem_entries_of_find? (List.ne_nil_of_mem hname) h) name hname

/-- Where directories stand on the way, the names of a place lead to it. -/
theorem WellFormed.locateFrom_standing (ht : t.WellFormed) {place : Place}
    (h : Standing t place) (n : ℕ) : t.locateFrom true n [] place = .ok place := by
  refine locateFrom_of_standing (fun name hname => ?_) h
  obtain ⟨⟨-, hdot, -⟩, hup, -, hlong⟩ :=
    ht.isFileName_of_find? (h place (List.prefix_refl place)) name hname
  exact ⟨hdot, hup, hlong⟩

/-- A path whose names go through directories alone is proper, and it is the one without links. -/
theorem WellFormed.canonical_standing (ht : t.WellFormed) {place : Place}
    (h : Standing t place) :
    Path.Proper ⟨.root, place⟩ ∧ t.canonical ⟨.root, place⟩ = ⟨.root, place⟩ := by
  have hproper : Path.Proper ⟨.root, place⟩ := fun name hname =>
    (ht.isFileName_of_find? (h place (List.prefix_refl place)) name hname).1
  exact ⟨hproper, canonical_of_locateFrom hproper (ht.locateFrom_standing h linkLimit)⟩

/-- A path that leads to a directory is resolved to the path without links, at whose end the
directory stands. -/
theorem WellFormed.resolve_eq_ok (ht : t.WellFormed) {cwd : Path} (hp : (absolute cwd p).Proper)
    (h : t.isDirectory (absolute cwd p) = .ok true) :
    t.resolve cwd p = .ok (t.canonical (absolute cwd p)) ∧
      t.end? (t.canonical (absolute cwd p)) = some .directory := by
  obtain ⟨place, hcanonical, hstanding⟩ := ht.exists_standing hp h
  -- no link is on the way of the path without links
  have hreal := ht.locateFrom_standing hstanding linkLimit
  have hplace := hstanding place (List.prefix_refl place)
  rw [hcanonical]
  constructor
  · unfold resolve
    dsimp only
    rw [(isDirectory_eq_true h).1, hcanonical]
    -- resolving a path fails only where links lead back to themselves
    have hstat : t.stat ⟨.root, place⟩ ≠ .error .linkLoop := by
      intro hstat
      unfold stat locate at hstat
      split at hstat
      · cases hstat
      · rw [hreal] at hstat
        simp [bind, Except.bind, hplace, pure, Except.pure] at hstat
    cases hstat' : t.stat ⟨.root, place⟩ with
    | ok e => rfl
    | error e =>
      cases e with
      | linkLoop => exact absurd hstat' hstat
      | _ => rfl
  · unfold end?
    rw [hreal]
    exact hplace

/-- Reading a path that is nameable does not fail for its name. -/
theorem readText_ne_unnameable {shown : Path} (hname : isNameable p = true) :
    t.readText shown p ≠ .error .unnameable := by
  intro h
  unfold readText at h
  cases hread : t.readBytes shown p with
  | ok content =>
    rw [hread] at h
    dsimp only [bind, Except.bind] at h
    split at h <;> cases h
  | error fault =>
    rw [hread] at h
    cases h
    unfold readBytes at hread
    rw [hname] at hread
    split at hread
    · rename_i heq
      cases heq
    · split at hread <;> cases hread

/-- A text is read from a file: its bytes are decoded, and line feeds stand for line breaks. -/
theorem end?_of_readText {shown : Path} {text : List Char} (h : t.readText shown p = .ok text) :
    ∃ content cs, t.end? p = some (.file content) ∧ Text.Utf8.decode content.toList = .ok cs ∧
      text = Text.normalizeBreaks cs := by
  unfold readText at h
  obtain ⟨content, hread, hdecode⟩ := Except.bind_eq_ok.mp h
  have hend : t.end? p = some (.file content) := by
    unfold readBytes at hread
    split at hread
    · cases hread
    · cases hstat : t.stat p with
      | error e =>
        rw [hstat] at hread
        cases hread
      | ok e =>
        rw [hstat] at hread
        cases e with
        | file content' =>
          cases hread
          exact end?_of_stat hstat
        | _ => cases hread
  cases hcs : Text.Utf8.decode content.toList with
  | ok cs =>
    rw [hcs] at hdecode
    cases hdecode
    exact ⟨content, cs, hend, hcs, rfl⟩
  | error fault =>
    rw [hcs] at hdecode
    cases hdecode

/-- A file that a path leads to is an entry of the tree. -/
theorem exists_mem_of_end? {content : ByteArray} (h : t.end? p = some (.file content)) :
    ∃ place, (place, Entry.file content) ∈ t.entries := by
  unfold end? at h
  split at h
  · rename_i place _
    unfold find? at h
    split at h
    · cases h
    · obtain ⟨_, l₂, hentries, -⟩ := List.lookup_eq_some_iff.mp h
      exact ⟨place, by rw [hentries]; simp⟩
  · cases h

end Ends

section Children

/-- The names in a directory are those of its entries. -/
theorem mem_childNames {p : Place} {name : String} :
    name ∈ t.childNames p ↔ ∃ e, (p ++ [name], e) ∈ t.entries := by
  unfold childNames
  rw [(Sorting.sort_perm _ _).mem_iff, List.mem_filterMap]
  constructor
  · rintro ⟨⟨q, e⟩, hmem, hlast⟩
    split at hlast
    · rename_i hdir
      refine ⟨e, ?_⟩
      rw [← beq_iff_eq.mp hdir, List.dropLast_append_getLast? name hlast]
      exact hmem
    · cases hlast
  · rintro ⟨e, hmem⟩
    refine ⟨_, hmem, ?_⟩
    simp

/-- Each name in a directory is listed once, and the names are in order. -/
theorem WellFormed.pairwise_childNames (h : t.WellFormed) (p : Place) :
    (t.childNames p).Pairwise (· < ·) := by
  have hle : ∀ a b : String, decide (a ≤ b) = true ↔ id a ≤ id b := fun a b => decide_eq_true_iff
  have hsorted := (Sorting.isStableSort_sort hle (t.entries.filterMap fun e =>
    if e.1.dropLast == p then e.1.getLast? else none)).pairwise
  have hnodup : (t.childNames p).Nodup := by
    refine (Sorting.sort_perm _ _).nodup_iff.mpr ?_
    -- two entries of the directory with the same name stand at the same place
    have hplaces : (t.entries.filterMap fun e =>
        if e.1.dropLast == p then e.1.getLast? else none) =
        (t.entries.map Prod.fst).filterMap fun q =>
          if q.dropLast == p then q.getLast? else none := by
      rw [List.filterMap_map]
      rfl
    rw [hplaces]
    refine h.nodup.filterMap fun q q' name hq hq' => ?_
    obtain ⟨hdir, hlast⟩ := Option.ite_none_right_eq_some.mp hq
    obtain ⟨hdir', hlast'⟩ := Option.ite_none_right_eq_some.mp hq'
    rw [← List.dropLast_append_getLast? name hlast, ← List.dropLast_append_getLast? name hlast',
      beq_iff_eq.mp hdir, beq_iff_eq.mp hdir']
  exact (hsorted.and hnodup).imp fun h => lt_of_le_of_ne h.1 h.2

/-- What is listed of a directory are its entries, with their paths. -/
theorem mem_of_list_eq_ok {dir : Path} {listed : List Listed} (h : t.list dir = .ok listed) :
    ∃ place, t.locate dir = .ok place ∧ t.find? place = some .directory ∧
      ∀ l, l ∈ listed ↔
        l.path = dir.entry l.name ∧ t.find? (place ++ [l.name]) = some l.entry := by
  unfold list at h
  obtain ⟨place, hplace, h⟩ := Except.bind_eq_ok.mp h
  have hlocate : t.locate dir = .ok place := by
    cases hlocate : t.locate dir with
    | error e => rw [hlocate] at hplace; cases hplace
    | ok place' => rw [hlocate] at hplace; cases hplace; rfl
  split at h
  · rename_i hfind
    obtain rfl := Except.pure_eq_ok.mp h
    refine ⟨place, hlocate, hfind, fun l => ?_⟩
    simp only [List.mem_filterMap, Option.map_eq_some_iff]
    constructor
    · rintro ⟨name, -, e, he, rfl⟩
      exact ⟨rfl, he⟩
    · rintro ⟨hpath, he⟩
      have hname := mem_childNames.mpr ⟨l.entry, mem_entries_of_find? (by simp) he⟩
      refine ⟨l.name, hname, l.entry, he, ?_⟩
      rw [← hpath]
  · cases h
  · cases h

/-- What can be listed is a directory. -/
theorem WellFormed.isDirectory_of_list (ht : t.WellFormed) {dir : Path} {listed : List Listed}
    (h : t.list dir = .ok listed) : t.isDirectory dir = .ok true := by
  obtain ⟨place, hlocate, hplace, -⟩ := mem_of_list_eq_ok h
  have hstat := stat_eq_ok_iff.mpr ⟨place, hlocate, hplace⟩
  unfold isDirectory probe
  rw [ht.isNameable (end?_of_stat hstat), hstat]
  rfl

/-- The entries of a directory are listed in the order of their names, each once. -/
theorem WellFormed.pairwise_list (ht : t.WellFormed) {dir : Path} {listed : List Listed}
    (h : t.list dir = .ok listed) : listed.Pairwise fun a b => a.name < b.name := by
  unfold list at h
  obtain ⟨place, -, h⟩ := Except.bind_eq_ok.mp h
  split at h
  · obtain rfl := Except.pure_eq_ok.mp h
    rw [List.pairwise_filterMap]
    refine (ht.pairwise_childNames place).imp fun hlt a ha b hb => ?_
    obtain ⟨_, -, rfl⟩ := Option.map_eq_some_iff.mp ha
    obtain ⟨_, -, rfl⟩ := Option.map_eq_some_iff.mp hb
    exact hlt
  · cases h
  · cases h

end Children

section Listed

variable {dir : Path} {place : Place} {name : String} {e : Entry}

/-- What stands at an entry of a directory is looked up at its place. -/
theorem end?_entry (hdir : dir.Proper) (hlocate : t.locate dir = .ok place)
    (hplace : t.find? place = some .directory) (name : String) :
    ∃ k ≤ linkLimit, t.end? (dir.entry name) =
      match t.locateFrom true k place [name] with
      | .ok place => t.find? place
      | .error _ => none := by
  unfold locate at hlocate
  split at hlocate
  · cases hlocate
  · obtain ⟨k, hk, happend⟩ :=
      exists_locateFrom_append (fun s hs => (hdir s hs).1) hlocate hplace
    refine ⟨k, hk, ?_⟩
    unfold end?
    rw [show (dir.entry name).names = dir.names ++ [name] from rfl, happend]

/-- Following one name in a directory. -/
theorem locateFrom_singleton (hname : IsFileName name) (k : ℕ) :
    (t.find? (place ++ [name]) = none → t.locateFrom true k place [name] = .error .notFound) ∧
      ∀ e, t.find? (place ++ [name]) = some e → (∀ target, e ≠ .link target) →
        t.locateFrom true k place [name] = .ok (place ++ [name]) := by
  obtain ⟨⟨-, hdot, -⟩, hup, -, hlong⟩ := hname
  have hlocate : ∃ follow, t.locateFrom true k place [name] =
      t.passNames true follow place [name] := by
    cases k <;> exact ⟨_, rfl⟩
  obtain ⟨follow, hlocate⟩ := hlocate
  rw [hlocate, passNames_name hdot hup hlong]
  constructor
  · intro hnone
    rw [hnone]
  · intro e he hlink
    rw [he]
    cases e with
    | link target => exact absurd rfl (hlink target)
    | _ => rfl

/-- At a name at whose end something stands, the directory has an entry. -/
theorem exists_find?_of_end? (hdir : dir.Proper) (hlocate : t.locate dir = .ok place)
    (hplace : t.find? place = some .directory) (hname : IsFileName name)
    (h : t.end? (dir.entry name) = some e) : ∃ e', t.find? (place ++ [name]) = some e' := by
  obtain ⟨k, -, hend⟩ := end?_entry hdir hlocate hplace name
  cases hfind : t.find? (place ++ [name]) with
  | some e' => exact ⟨e', rfl⟩
  | none =>
    rw [hend, (locateFrom_singleton hname k).1 hfind] at h
    cases h

/-- At the end of the path of an entry that is no link the entry stands. -/
theorem end?_of_find? (hdir : dir.Proper) (hlocate : t.locate dir = .ok place)
    (hplace : t.find? place = some .directory) (hname : IsFileName name)
    (h : t.find? (place ++ [name]) = some e) (hlink : ∀ target, e ≠ .link target) :
    t.end? (dir.entry name) = some e := by
  obtain ⟨k, -, hend⟩ := end?_entry hdir hlocate hplace name
  rw [hend, (locateFrom_singleton hname k).2 e h hlink]
  exact h

/-- Something stands at the end of a path only if its last name can be that of a file. -/
theorem WellFormed.isFileName_of_end? (ht : t.WellFormed) (hdir : dir.Proper)
    (hname : Path.IsName name) (hup : name ≠ "..") (h : t.end? (dir.entry name) = some e) :
    IsFileName name := by
  have hnameable := ht.isNameable h
  unfold FileTree.isNameable at hnameable
  simp only [List.all_eq_true, bne_iff_ne] at hnameable
  refine ⟨hname, hup, hnameable name (by simp [Path.entry]), ?_⟩
  -- a name that is too long is not passed behind the directory
  have hend := ht.end?_of_append (List.cons_ne_nil name []) h
  unfold end? at hend
  split at hend
  · rename_i place hlocate
    obtain ⟨k, -, happend⟩ := exists_locateFrom_append (fun s hs => (hdir s hs).1) hlocate hend
    by_contra hlong
    have hpass : t.locateFrom true k place [name] = .error .nameTooLong := by
      cases k <;> simp [locateFrom, passNames, hname.2.1, hup, Nat.not_le.mp hlong]
    unfold end? at h
    rw [show (dir.entry name).names = dir.names ++ [name] from rfl, happend, hpass] at h
    cases h
  · cases hend

variable (ht : t.WellFormed) (hdir : dir.Proper) {listed : List Listed}
  (hlisted : t.list dir = .ok listed) {l : Listed} (hl : l ∈ listed)

include ht hlisted hl in
/-- The names of listed entries can be those of files. -/
theorem WellFormed.isFileName_listed : IsFileName l.name := by
  obtain ⟨place, -, -, hmem⟩ := mem_of_list_eq_ok hlisted
  have hentry := mem_entries_of_find? (by simp) ((hmem l).mp hl).2
  exact ht.isFileName _ hentry l.name (by simp)

include ht hdir hlisted hl in
/-- Where it can be told what a listed entry leads to, it is what stands at the end of its path. -/
theorem leadsTo_eq_ok {test : Entry → Bool} {b : Bool} (h : l.leadsTo t test = .ok b) :
    b = (t.end? l.path).any test := by
  obtain ⟨place, hlocate, hplace, hmem⟩ := mem_of_list_eq_ok hlisted
  obtain ⟨hpath, hfind⟩ := (hmem l).mp hl
  have hname := ht.isFileName_listed hlisted hl
  unfold Listed.leadsTo at h
  cases hentry : l.entry with
  | link target =>
    -- the path of a link is followed, and a link to nothing passes no test
    rw [hentry] at h
    dsimp only at h
    cases hstat : t.stat l.path with
    | ok e =>
      rw [hstat] at h
      cases h
      rw [end?_of_stat hstat]
      rfl
    | error error =>
      rw [hstat] at h
      cases error with
      | notFound =>
        cases h
        rw [end?_of_stat_eq_error hstat (by decide)]
        rfl
      | _ => cases h
  | _ =>
    rw [hentry] at h hfind
    cases h
    rw [hpath, end?_of_find? hdir hlocate hplace hname hfind (fun _ => by simp)]
    rfl

end Listed

end AgentPackage.FileTree
