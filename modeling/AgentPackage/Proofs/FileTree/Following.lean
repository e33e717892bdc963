import AgentPackage.Proofs.FileTree.Names
import Mathlib.Data.List.Perm.Subperm

/-!
# Where paths lead

A path is followed in two ways. `locate` puts the names of a link's target in front of those that
are left and gives up after a number of links; `canonical` removes the links of one target before
it goes on and gives up where a link leads back to itself. Where the first way ends, the second one
ends at the same place.

## Main definitions

* `FileTree.Leads`: where names lead, without a bound on the links that are met;
* `FileTree.Standing`: directories stand at a place and on the way to it.

## Main results

* `Leads.deterministic`: names lead to one place, in one number of steps;
* `canonical_of_locateFrom`: the path without links of a path that can be followed;
* `exists_locateFrom_append`: names are followed behind those that lead to a directory;
* `exists_locateFrom_of_append`: names behind which others are followed lead to a directory.
-/

namespace AgentPackage.FileTree

variable {t : FileTree}

/-- What the name `name` means in the directory at `here`: another place or the target of a link. -/
def next (t : FileTree) (here : Place) (name : String) : Place ⊕ String :=
  if name == "" || name == "." then .inl here
  else if name == ".." then .inl here.dropLast
  else match t.find? (here ++ [name]) with
    | some (.link target) => .inr target
    | _ => .inl (here ++ [name])

/-- Where the target of a link in the directory at `here` starts. -/
def startOf (here : Place) (target : String) : Place :=
  if Path.anchorOf target == .relative then here else []

/-- The names lead from `here` to a place in `n` steps: the names of a link's target are followed
before those that are left, and the link itself takes one step more. -/
inductive Leads (t : FileTree) : ℕ → Place → List String → Place → Prop
  /-- No name leads nowhere else. -/
  | here (place : Place) : Leads t 0 place [] place
  /-- A name that is no link leads to a place, from which the others are followed. -/
  | move {here mid place : Place} {name : String} {rest : List String} {n : ℕ} :
      t.next here name = .inl mid → Leads t n mid rest place →
        Leads t (n + 1) here (name :: rest) place
  /-- The target of a link leads to a place, from which the others are followed. -/
  | link {here mid place : Place} {name target : String} {rest : List String} {m n : ℕ} :
      t.next here name = .inr target →
        Leads t m (startOf here target) (Path.splitSlashes target) mid → Leads t n mid rest place →
        Leads t (m + n + 1) here (name :: rest) place

namespace Leads

variable {n m : ℕ} {here place place' : Place} {names xs ys : List String}

/-- Names lead to one place, in one number of steps. -/
theorem deterministic (h : Leads t n here names place) (h' : Leads t m here names place') :
    n = m ∧ place = place' := by
  -- what the first name means decides how both ways go on
  induction h generalizing m place' with
  | here place =>
    cases h'
    exact ⟨rfl, rfl⟩
  | move hnext _ ih =>
    cases h' with
    | move hnext' hrest' =>
      cases hnext.symm.trans hnext'
      obtain ⟨rfl, rfl⟩ := ih hrest'
      exact ⟨rfl, rfl⟩
    | link hnext' => cases hnext.symm.trans hnext'
  | link hnext _ _ ihtarget ih =>
    cases h' with
    | move hnext' => cases hnext.symm.trans hnext'
    | link hnext' htarget' hrest' =>
      cases hnext.symm.trans hnext'
      obtain ⟨rfl, rfl⟩ := ihtarget htarget'
      obtain ⟨rfl, rfl⟩ := ih hrest'
      exact ⟨rfl, rfl⟩

/-- Names that are followed one row after the other. -/
theorem append_iff :
    (∃ n, Leads t n here (xs ++ ys) place) ↔
      ∃ mid, (∃ n, Leads t n here xs mid) ∧ ∃ n, Leads t n mid ys place := by
  induction xs generalizing here with
  | nil =>
    constructor
    · intro h
      exact ⟨here, ⟨0, .here here⟩, h⟩
    · rintro ⟨mid, ⟨n, h⟩, hys⟩
      cases h
      exact hys
  | cons name xs ih =>
    rw [List.cons_append]
    constructor
    · rintro ⟨n, h⟩
      cases h with
      | move hnext h =>
        obtain ⟨mid, ⟨k, hxs⟩, hys⟩ := ih.mp ⟨_, h⟩
        exact ⟨mid, ⟨_, .move hnext hxs⟩, hys⟩
      | link hnext htarget h =>
        obtain ⟨mid, ⟨k, hxs⟩, hys⟩ := ih.mp ⟨_, h⟩
        exact ⟨mid, ⟨_, .link hnext htarget hxs⟩, hys⟩
    · rintro ⟨mid, ⟨n, h⟩, hys⟩
      cases h with
      | move hnext hxs =>
        obtain ⟨k, h⟩ := ih.mpr ⟨mid, ⟨_, hxs⟩, hys⟩
        exact ⟨_, .move hnext h⟩
      | link hnext htarget hxs =>
        obtain ⟨k, h⟩ := ih.mpr ⟨mid, ⟨_, hxs⟩, hys⟩
        exact ⟨_, .link hnext htarget h⟩

/-- Empty names and the name `.` lead nowhere else, so they can be put in between. -/
theorem of_filter (h : ∃ n, Leads t n here (names.filter fun s => s != "" && s != ".") place) :
    ∃ n, Leads t n here names place := by
  induction names generalizing here with
  | nil => exact h
  | cons name names ih =>
    by_cases hname : name = "" ∨ name = "."
    · have hskip : t.next here name = .inl here := by
        rcases hname with rfl | rfl <;> rfl
      have hdrop : (name :: names).filter (fun s => s != "" && s != ".") =
          names.filter fun s => s != "" && s != "." := by
        rcases hname with rfl | rfl <;> rfl
      rw [hdrop] at h
      obtain ⟨n, h⟩ := ih h
      exact ⟨_, .move hskip h⟩
    · rw [not_or] at hname
      rw [List.filter_cons_of_pos (by simp [hname.1, hname.2])] at h
      obtain ⟨n, h⟩ := h
      cases h with
      | move hnext h =>
        obtain ⟨k, h⟩ := ih ⟨_, h⟩
        exact ⟨_, .move hnext h⟩
      | link hnext htarget h =>
        obtain ⟨k, h⟩ := ih ⟨_, h⟩
        exact ⟨_, .link hnext htarget h⟩

/-- The names that a link puts in front of the others lead where its target does. -/
theorem of_targetNames {target : String} (h : ∃ n, Leads t n here (targetNames target) place) :
    ∃ n, Leads t n here (Path.splitSlashes target) place := by
  apply of_filter
  unfold targetNames at h
  dsimp only at h
  split at h
  · -- the `.` that asks for a directory leads nowhere else
    obtain ⟨mid, hnames, n, hdot⟩ := append_iff.mp h
    cases hdot with
    | move hnext hrest =>
      cases hnext
      cases hrest
      exact hnames
    | link hnext => cases hnext
  · exact h

end Leads

section Locating

variable {follow : Place → List String → Except AccessError Place} {here place d : Place}
  {names : List String} {n : ℕ}

/-- A name leads on from a directory to another one. -/
inductive Moves (t : FileTree) (here : Place) : String → Place → Prop
  /-- The name `.` leads nowhere else. -/
  | stay : Moves t here "." here
  /-- The name `..` leads to the directory above. -/
  | up : Moves t here ".." here.dropLast
  /-- Another name leads to the directory that has it. -/
  | down {name : String} : name ≠ "." → name ≠ ".." →
      t.find? (here ++ [name]) = some .directory → Moves t here name (here ++ [name])

/-- What stands at a name decides how it is passed, if the name can be that of an entry. -/
theorem passNames_name {name : String} (hdot : name ≠ ".") (hup : name ≠ "..")
    (hlong : name.utf8ByteSize ≤ nameByteLimit) (rest : List String) :
    t.passNames true follow here (name :: rest) =
      match t.find? (here ++ [name]) with
      | none => .error .notFound
      | some .directory => t.passNames true follow (here ++ [name]) rest
      | some (.file _) => if rest.isEmpty then .ok (here ++ [name]) else .error .notADirectory
      | some (.link target) => follow (startOf here target) (targetNames target ++ rest) := by
  rcases hfind : t.find? (here ++ [name]) with _ | _ | _ | _ <;>
    simp [passNames, hdot, hup, Nat.not_lt.mpr hlong, hfind, startOf]

/-- A name that is passed is left behind, whatever is left; only a file is passed at the end alone.
Behind a link the names of its target are followed first. -/
theorem passNames_cases {name : String}
    (h : t.passNames true follow here (name :: names) = .ok place) :
    (∃ mid, Moves t here name mid ∧
        ∀ rest, t.passNames true follow here (name :: rest) = t.passNames true follow mid rest) ∨
      name ≠ "." ∧ name ≠ ".." ∧
        ((names = [] ∧ place = here ++ [name] ∧
            ∃ content, t.find? (here ++ [name]) = some (.file content)) ∨
          ∃ target, t.find? (here ++ [name]) = some (.link target) ∧
            ∀ rest, t.passNames true follow here (name :: rest) =
              follow (startOf here target) (targetNames target ++ rest)) := by
  by_cases hdot : name = "."
  · subst hdot
    exact .inl ⟨here, .stay, fun rest => rfl⟩
  by_cases hup : name = ".."
  · subst hup
    exact .inl ⟨here.dropLast, .up, fun rest => rfl⟩
  by_cases hlong : nameByteLimit < name.utf8ByteSize
  · -- a name that is too long is not passed
    unfold passNames at h
    simp [hdot, hup, hlong] at h
  · have hpass : ∀ rest, t.passNames true follow here (name :: rest) = _ :=
      passNames_name hdot hup (Nat.not_lt.mp hlong)
    rw [hpass] at h
    cases hfind : t.find? (here ++ [name]) with
    | none => rw [hfind] at h; cases h
    | some e =>
      simp only [hfind] at hpass h
      cases e with
      | directory => exact .inl ⟨_, .down hdot hup hfind, hpass⟩
      | link target => exact .inr ⟨hdot, hup, .inr ⟨target, rfl, hpass⟩⟩
      | file content =>
        cases names with
        | nil =>
          cases h
          exact .inr ⟨hdot, hup, .inl ⟨rfl, rfl, content, rfl⟩⟩
        | cons m ms => cases h

/-- A name that is passed means what `next` tells. -/
theorem passNames_cons {name : String} (hname : name ≠ "")
    (h : t.passNames true follow here (name :: names) = .ok place) :
    (∃ mid, t.next here name = .inl mid ∧
        ((∀ rest, t.passNames true follow here (name :: rest) = t.passNames true follow mid rest) ∨
          names = [] ∧ place = mid ∧ ∃ content, t.find? mid = some (.file content))) ∨
      ∃ target, t.next here name = .inr target ∧
        ∀ rest, t.passNames true follow here (name :: rest) =
          follow (startOf here target) (targetNames target ++ rest) := by
  rcases passNames_cases h with
    ⟨mid, hmove, hpass⟩ | ⟨hdot, hup, ⟨rfl, rfl, content, hfind⟩ | ⟨target, hfind, hpass⟩⟩
  · refine .inl ⟨mid, ?_, .inl hpass⟩
    cases hmove with
    | stay => rfl
    | up => rfl
    | down hdot hup hfind => simp [next, hname, hdot, hup, hfind]
  · exact .inl ⟨_, by simp [next, hname, hdot, hup, hfind], .inr ⟨rfl, rfl, content, hfind⟩⟩
  · exact .inr ⟨target, by simp [next, hname, hdot, hup, hfind], hpass⟩

/-- The names that a link puts in front of the others are not empty. -/
theorem ne_empty_of_mem_targetNames {target s : String} (h : s ∈ targetNames target) : s ≠ "" := by
  unfold targetNames at h
  dsimp only at h
  rintro rfl
  split at h
  · simp at h
  · simp at h

/-- Names that are followed lead to the place that is reached. -/
theorem exists_leads_of_passNames
    (hfollow : ∀ start names place, (∀ s ∈ names, s ≠ "") → follow start names = .ok place →
      ∃ n, Leads t n start names place)
    (hnames : ∀ s ∈ names, s ≠ "") (h : t.passNames true follow here names = .ok place) :
    ∃ n, Leads t n here names place := by
  induction names generalizing here with
  | nil =>
    cases h
    exact ⟨0, .here _⟩
  | cons name names ih =>
    rw [List.forall_mem_cons] at hnames
    rcases passNames_cons hnames.1 h with
      ⟨mid, hnext, hpass | ⟨rfl, rfl, -⟩⟩ | ⟨target, hnext, hpass⟩
    · obtain ⟨n, h⟩ := ih hnames.2 (hpass names ▸ h)
      exact ⟨_, .move hnext h⟩
    · exact ⟨_, .move hnext (.here _)⟩
    · -- the names of the target come first, then those that are left
      rw [hpass] at h
      have htarget : ∀ s ∈ targetNames target ++ names, s ≠ "" := fun s hs =>
        (List.mem_append.mp hs).elim ne_empty_of_mem_targetNames (hnames.2 s)
      obtain ⟨mid, hfirst, n, hrest⟩ := Leads.append_iff.mp (hfollow _ _ _ htarget h)
      obtain ⟨m, hfirst⟩ := Leads.of_targetNames hfirst
      exact ⟨_, .link hnext hfirst hrest⟩

/-- Names that are followed within a number of links lead to the place that is reached. -/
theorem exists_leads_of_locateFrom (hnames : ∀ s ∈ names, s ≠ "")
    (h : t.locateFrom true n here names = .ok place) : ∃ k, Leads t k here names place := by
  induction n generalizing here names place with
  | zero => exact exists_leads_of_passNames (fun _ _ _ _ h => by cases h) hnames h
  | succ n ih => exact exists_leads_of_passNames (fun _ _ _ hnames h => ih hnames h) hnames h

/-- Behind names that lead to a directory, others are followed from there. -/
theorem passNames_append (hnames : ∀ s ∈ names, s ≠ "")
    (h : t.passNames true follow here names = .ok d) (hd : t.find? d = some .directory) :
    (∀ rest, t.passNames true follow here (names ++ rest) = t.passNames true follow d rest) ∨
      ∃ start names', (∀ s ∈ names', s ≠ "") ∧ follow start names' = .ok d ∧
        ∀ rest, t.passNames true follow here (names ++ rest) = follow start (names' ++ rest) := by
  induction names generalizing here with
  | nil =>
    cases h
    exact .inl fun rest => rfl
  | cons name names ih =>
    rw [List.forall_mem_cons] at hnames
    simp only [List.cons_append]
    rcases passNames_cons hnames.1 h with
      ⟨mid, -, hpass | ⟨-, rfl, content, hfile⟩⟩ | ⟨target, -, hpass⟩
    · simp only [hpass]
      exact ih hnames.2 (hpass names ▸ h)
    · -- behind a file nothing is followed
      rw [hfile] at hd
      cases hd
    · right
      refine ⟨_, targetNames target ++ names, fun s hs => ?_, hpass names ▸ h, fun rest => ?_⟩
      · exact (List.mem_append.mp hs).elim ne_empty_of_mem_targetNames (hnames.2 s)
      · rw [hpass, List.append_assoc]

/-- Behind names that lead to a directory, others are followed from there with the links that are
left. -/
theorem exists_locateFrom_append (hnames : ∀ s ∈ names, s ≠ "")
    (h : t.locateFrom true n here names = .ok d) (hd : t.find? d = some .directory) :
    ∃ k ≤ n, ∀ rest, t.locateFrom true n here (names ++ rest) = t.locateFrom true k d rest := by
  induction n generalizing here names with
  | zero =>
    rcases passNames_append hnames h hd with happend | ⟨_, _, _, h, -⟩
    · exact ⟨0, Nat.le_refl 0, happend⟩
    · cases h
  | succ n ih =>
    rcases passNames_append hnames h hd with happend | ⟨start, names', hnames', h, happend⟩
    · exact ⟨n + 1, Nat.le_refl _, happend⟩
    · obtain ⟨k, hk, hrest⟩ := ih hnames' h
      exact ⟨k, Nat.le_succ_of_le hk, fun rest => (happend rest).trans (hrest rest)⟩

end Locating

section Canonical

variable {here place : Place} {names : List String} {n : ℕ}

/-- Where links are removed from is told by `next`. -/
theorem removeLinks_cons {enter : List Place → Place → List String → Except Path Place}
    {active : List Place} {name : String} {rest : List String} :
    t.removeLinks enter active here (name :: rest) =
      match t.next here name with
      | .inl mid => t.removeLinks enter active mid rest
      | .inr target =>
        if active.contains (here ++ [name]) then
          .error (Path.child ⟨.root, here ++ [name]⟩ ("/".intercalate rest))
        else
          match enter ((here ++ [name]) :: active) (startOf here target)
            (Path.splitSlashes target) with
          | .ok place => t.removeLinks enter active place rest
          | .error path => .error (path.child ("/".intercalate rest)) := by
  rw [removeLinks]
  unfold next startOf
  split
  · rfl
  · split
    · rfl
    · cases t.find? (here ++ [name]) with
      | none => rfl
      | some e => cases e <;> rfl

/-- How links are entered with a budget. -/
def enterWith (t : FileTree) : ℕ → List Place → Place → List String → Except Path Place
  | 0 => fun active _ _ => .error ⟨.root, active.headD []⟩
  | budget + 1 => t.canonicalFrom budget

theorem canonicalFrom_eq (budget : ℕ) :
    t.canonicalFrom budget = t.removeLinks (t.enterWith budget) := by
  cases budget <;> rfl

/-- A name that is no link leads to a place without `..`. -/
theorem up_notMem_next {mid : Place} {name : String} (hhere : ".." ∉ here)
    (h : t.next here name = .inl mid) : ".." ∉ mid := by
  unfold next at h
  split at h
  · cases h
    exact hhere
  · split at h
    · cases h
      exact fun hup => hhere (List.dropLast_subset here hup)
    · rename_i hname
      have hmid : mid = here ++ [name] := by
        split at h <;> cases h
        rfl
      rw [hmid, List.mem_append, List.mem_singleton, not_or]
      exact ⟨hhere, fun heq => hname (by simp [← heq])⟩

/-- Removing links leads to a place without `..`. -/
theorem up_notMem_removeLinks {enter : List Place → Place → List String → Except Path Place}
    {active : List Place}
    (henter : ∀ active here names place, ".." ∉ here → enter active here names = .ok place →
      ".." ∉ place)
    (hhere : ".." ∉ here) (h : t.removeLinks enter active here names = .ok place) :
    ".." ∉ place := by
  induction names generalizing here with
  | nil =>
    cases h
    exact hhere
  | cons name rest ih =>
    rw [removeLinks_cons] at h
    split at h
    · rename_i mid hnext
      exact ih (up_notMem_next hhere hnext) h
    · split at h
      · cases h
      · split at h
        · rename_i hplace
          refine ih (henter _ _ _ _ ?_ hplace) h
          unfold startOf
          split
          · exact hhere
          · simp
        · cases h

/-- Removing links within a budget leads to a place without `..`. -/
theorem up_notMem_canonicalFrom {budget : ℕ} {active : List Place} (hhere : ".." ∉ here)
    (h : t.canonicalFrom budget active here names = .ok place) : ".." ∉ place := by
  induction budget generalizing active here names place with
  | zero =>
    refine up_notMem_removeLinks (fun active here names place _ h => ?_) hhere h
    cases h
  | succ budget ih => exact up_notMem_removeLinks (fun _ _ _ _ hhere h => ih hhere h) hhere h

/-- The path without links of a proper path has no `..`. -/
theorem up_notMem_canonical {p : Path} (hp : p.Proper) : ".." ∉ (t.canonical p).names := by
  have habsolute := (canonical_proper (t := t) hp).2
  unfold canonical at habsolute ⊢
  cases h : t.canonicalFrom t.linkCount [] [] p.names with
  | ok place => exact up_notMem_canonicalFrom (by simp) h
  | error path =>
    rw [h] at habsolute
    exact Path.up_notMem_normalize habsolute

/-- The path without links that a proper path leads to has no `..`. -/
theorem up_notMem_resolve {cwd p real : Path} (hcwd : cwd.Proper) (hp : p.Proper)
    (h : t.resolve cwd p = .ok real) : ".." ∉ real.names := by
  unfold resolve at h
  dsimp only at h
  split at h
  · cases h
  · split at h
    · cases h
    · cases h
      exact up_notMem_canonical (absolute_proper hcwd hp)

/-- A name that means the target of a link is that of a link in the tree. -/
theorem find?_of_next {name target : String} (h : t.next here name = .inr target) :
    t.find? (here ++ [name]) = some (.link target) := by
  unfold next at h
  split at h
  · cases h
  · split at h
    · cases h
    · split at h
      · rename_i hfind
        cases h
        exact hfind
      · cases h

/-- What stands at a place other than the root is one of the entries of the tree. -/
theorem mem_entries_of_find? {p : Place} {e : Entry} (hp : p ≠ []) (h : t.find? p = some e) :
    (p, e) ∈ t.entries := by
  unfold find? at h
  rw [if_neg (by simpa using hp)] at h
  obtain ⟨before, after, heq, -⟩ := List.lookup_eq_some_iff.mp h
  rw [heq]
  exact List.mem_append_right _ List.mem_cons_self

/-- Where no place holds two entries, an entry stands at its place. -/
theorem find?_of_mem_entries (ht : (t.entries.map Prod.fst).Nodup) {p : Place} {e : Entry}
    (hp : p ≠ []) (h : (p, e) ∈ t.entries) : t.find? p = some e := by
  unfold find?
  rw [if_neg (by simpa using hp), List.lookup_eq_some_iff]
  obtain ⟨before, after, heq⟩ := List.append_of_mem h
  refine ⟨before, after, heq, fun x hx => ?_⟩
  rw [heq, List.map_append, List.nodup_append] at ht
  have hne := ht.2.2 x.1 (List.mem_map_of_mem hx) p (by simp)
  exact bne_iff_ne.mpr hne.symm

/-- Different places are no more than the entries of a kind, if each has one. -/
theorem length_le_countP {test : Place × Entry → Bool} {places : List Place}
    (hnodup : places.Nodup)
    (hplaces : ∀ place ∈ places, ∃ e, (place, e) ∈ t.entries ∧ test (place, e) = true) :
    places.length ≤ t.entries.countP test := by
  have hsub : places ⊆ (t.entries.filter test).map Prod.fst := by
    intro place hplace
    obtain ⟨e, hmem, htest⟩ := hplaces place hplace
    exact List.mem_map.mpr ⟨_, List.mem_filter.mpr ⟨hmem, htest⟩, rfl⟩
  have hlength := (List.subperm_of_subset hnodup hsub).length_le
  rwa [List.length_map, ← List.countP_eq_length_filter] at hlength

/-- Different links of the tree are counted. -/
theorem length_le_linkCount {links : List Place} (hnodup : links.Nodup)
    (hlinks : ∀ link ∈ links, ∃ target, t.find? link = some (.link target)) :
    links.length ≤ t.linkCount := by
  refine length_le_countP hnodup fun link hlink => ?_
  obtain ⟨target, hfind⟩ := hlinks link hlink
  have hne : link ≠ [] := by
    rintro rfl
    cases hfind
  exact ⟨.link target, mem_entries_of_find? hne hfind, rfl⟩

/-- The links that are being removed lead on in at least `n` steps: what is left of their targets
is followed in no more steps than the whole. -/
def Active (t : FileTree) (n : ℕ) (active : List Place) : Prop :=
  ∀ link ∈ active, ∃ here name target mid m, link = here ++ [name] ∧
    t.next here name = .inr target ∧
    Leads t m (startOf here target) (Path.splitSlashes target) mid ∧ n ≤ m

theorem active_nil : Active t n [] :=
  fun _ hlink => absurd hlink List.not_mem_nil

/-- The fewer steps are left, the more do the links that are being removed stay active. -/
theorem Active.mono {m : ℕ} {active : List Place} (h : Active t n active) (hm : m ≤ n) :
    Active t m active := by
  intro link hlink
  obtain ⟨here, name, target, mid, k, heq, hnext, hleads, hk⟩ := h link hlink
  exact ⟨here, name, target, mid, k, heq, hnext, hleads, Nat.le_trans hm hk⟩

/-- A link is active while the names of its target are followed. -/
theorem Active.cons {here mid : Place} {name target : String} {active : List Place}
    (h : Active t n active) (hnext : t.next here name = .inr target)
    (htarget : Leads t n (startOf here target) (Path.splitSlashes target) mid) :
    Active t n ((here ++ [name]) :: active) := by
  intro link hlink
  rcases List.mem_cons.mp hlink with rfl | hlink
  · exact ⟨here, name, target, mid, n, rfl, hnext, htarget, Nat.le_refl n⟩
  · exact h link hlink

/-- A link whose target leads on in fewer steps than are left is not active: where it was met first,
its target leads on in as many steps. -/
theorem Active.notMem {here mid : Place} {name target : String} {active : List Place} {m : ℕ}
    (h : Active t n active) (hnext : t.next here name = .inr target)
    (htarget : Leads t m (startOf here target) (Path.splitSlashes target) mid) (hm : m < n) :
    here ++ [name] ∉ active := by
  intro hmem
  obtain ⟨_, _, _, _, k, hlink, hnext', hleads, hk⟩ := h _ hmem
  obtain ⟨rfl, hname⟩ := List.append_inj' hlink rfl
  cases hname
  cases hnext.symm.trans hnext'
  obtain ⟨rfl, -⟩ := htarget.deterministic hleads
  omega

/-- Active links are links of the tree. -/
theorem Active.length_le {active : List Place} (h : Active t n active) (hnodup : active.Nodup) :
    active.length ≤ t.linkCount := by
  refine length_le_linkCount hnodup fun link hlink => ?_
  obtain ⟨_, _, target, _, _, rfl, hnext, -⟩ := h link hlink
  exact ⟨target, find?_of_next hnext⟩

/-- Removing links leads where the names lead. A link does not lead back to itself on the way: the
names of its target would be followed in fewer steps than they are. -/
theorem Leads.canonicalFrom_eq_ok (h : Leads t n here names place) {budget : ℕ}
    {active : List Place} (hactive : Active t n active) (hnodup : active.Nodup)
    (hbudget : t.linkCount ≤ budget + active.length) :
    t.canonicalFrom budget active here names = .ok place := by
  induction h generalizing budget active with
  | here place =>
    rw [canonicalFrom_eq, removeLinks]
  | move hnext _ ih =>
    rw [canonicalFrom_eq, removeLinks_cons, hnext, ← canonicalFrom_eq]
    exact ih (hactive.mono (by omega)) hnodup hbudget
  | @link here mid place name target rest m n hnext htarget _ ihtarget ihrest =>
    -- the target leads on in fewer steps than the whole, so the link was not met before
    have hfresh : here ++ [name] ∉ active := hactive.notMem hnext htarget (by omega)
    have hactive' : Active t m ((here ++ [name]) :: active) :=
      (hactive.mono (by omega)).cons hnext htarget
    have hnodup' : ((here ++ [name]) :: active).Nodup := List.nodup_cons.mpr ⟨hfresh, hnodup⟩
    -- the budget is not used up, since this is one more link of the tree
    have hcount := hactive'.length_le hnodup'
    rw [List.length_cons] at hcount
    obtain ⟨budget, rfl⟩ : ∃ b, budget = b + 1 := ⟨budget - 1, by omega⟩
    have hinner : t.canonicalFrom budget ((here ++ [name]) :: active) (startOf here target)
        (Path.splitSlashes target) = .ok mid :=
      ihtarget hactive' hnodup' (by rw [List.length_cons]; omega)
    have hcontains : active.contains (here ++ [name]) = false := by simpa using hfresh
    rw [canonicalFrom_eq, removeLinks_cons, hnext]
    simp only [hcontains, Bool.false_eq_true, if_false, enterWith, hinner]
    exact @ihrest (budget + 1) _ (hactive.mono (by omega)) hnodup hbudget

/-- The path without links of a path that can be followed is the place that it leads to. -/
theorem canonical_of_locateFrom {p : Path} (hp : p.Proper)
    (h : t.locateFrom true n [] p.names = .ok place) : t.canonical p = ⟨.root, place⟩ := by
  obtain ⟨k, hleads⟩ := exists_leads_of_locateFrom (fun s hs => (hp s hs).1) h
  have hcanonical : t.canonicalFrom t.linkCount [] [] p.names = .ok place :=
    hleads.canonicalFrom_eq_ok active_nil .nil (Nat.le_refl _)
  unfold canonical
  rw [hcanonical]

end Canonical

section Standing

variable {follow : Place → List String → Except AccessError Place} {here place : Place}
  {names rest : List String} {n : ℕ}

/-- Directories stand at a place and on the way to it. -/
def Standing (t : FileTree) (place : Place) : Prop :=
  ∀ q, q <+: place → t.find? q = some .directory

theorem hasDirectory_eq_true : t.hasDirectory place = true ↔ t.find? place = some .directory := by
  unfold hasDirectory
  split <;> simp_all

theorem standing_nil : Standing t [] := by
  intro q hq
  rw [List.prefix_nil.mp hq]
  rfl

theorem Standing.dropLast (h : Standing t place) : Standing t place.dropLast :=
  fun q hq => h q (hq.trans (List.dropLast_prefix place))

theorem Standing.concat (h : Standing t place) {name : String}
    (hname : t.find? (place ++ [name]) = some .directory) : Standing t (place ++ [name]) := by
  intro q hq
  rcases List.prefix_concat_iff.mp hq with rfl | hq
  · exact hname
  · exact h q hq

theorem Standing.startOf (h : Standing t place) (target : String) :
    Standing t (startOf place target) := by
  unfold FileTree.startOf
  split
  · exact h
  · exact standing_nil

/-- Names that lead through directories alone lead to the place that they make. -/
theorem locateFrom_of_standing (hnames : ∀ s ∈ names, s ≠ "." ∧ s ≠ ".." ∧
    s.utf8ByteSize ≤ nameByteLimit) (h : Standing t (here ++ names)) :
    t.locateFrom true n here names = .ok (here ++ names) := by
  have hpass : ∀ follow, t.passNames true follow here names = .ok (here ++ names) := by
    intro follow
    induction names generalizing here with
    | nil => rw [passNames, List.append_nil]
    | cons name names ih =>
      obtain ⟨⟨hdot, hup, hlong⟩, hnames⟩ := List.forall_mem_cons.mp hnames
      have hfind := h (here ++ [name]) (by simp)
      rw [passNames_name hdot hup hlong, hfind]
      rw [List.append_cons here name names] at h ⊢
      exact ih hnames h
  cases n <;> exact hpass _

variable (ht : ∀ x ∈ t.entries, ∀ s ∈ x.1, ∀ c ∈ s.toList, c.toNat ≠ 0)

include ht

/-- A name that is passed holds no NUL character, as those of the entries do, and leads on from
directories to directories, unless it is the last one. -/
theorem passNames_cons_standing (hhere : Standing t here) {name : String}
    (h : t.passNames true follow here (name :: names) = .ok place) :
    (∀ c ∈ name.toList, c.toNat ≠ 0) ∧
      (names = [] ∨
        (∃ mid, Standing t mid ∧
          ∀ rest, t.passNames true follow here (name :: rest) = t.passNames true follow mid rest) ∨
        ∃ start names', Standing t start ∧
          ∀ rest, t.passNames true follow here (name :: rest) = follow start (names' ++ rest)) := by
  have hentry : ∀ {e}, t.find? (here ++ [name]) = some e → ∀ c ∈ name.toList, c.toNat ≠ 0 :=
    fun hfind => ht _ (mem_entries_of_find? (by simp) hfind) name (by simp)
  rcases passNames_cases h with
    ⟨mid, hmove, hpass⟩ | ⟨-, -, ⟨hnames, -, content, hfind⟩ | ⟨target, hfind, hpass⟩⟩
  · cases hmove with
    | stay => exact ⟨by simp, .inr (.inl ⟨here, hhere, hpass⟩)⟩
    | up => exact ⟨by simp, .inr (.inl ⟨here.dropLast, hhere.dropLast, hpass⟩)⟩
    | down _ _ hfind => exact ⟨hentry hfind, .inr (.inl ⟨_, hhere.concat hfind, hpass⟩)⟩
  · exact ⟨hentry hfind, .inl hnames⟩
  · exact ⟨hentry hfind, .inr (.inr ⟨_, _, hhere.startOf target, hpass⟩)⟩

/-- Names behind which others are followed lead to a directory. -/
theorem exists_passNames_of_append (hrest : rest ≠ [])
    (hfollow : ∀ start names, Standing t start → follow start (names ++ rest) = .ok place →
      ∃ d, follow start names = .ok d ∧ Standing t d)
    (hhere : Standing t here) (h : t.passNames true follow here (names ++ rest) = .ok place) :
    ∃ d, t.passNames true follow here names = .ok d ∧ Standing t d := by
  induction names generalizing here with
  | nil => exact ⟨here, rfl, hhere⟩
  | cons name names ih =>
    obtain ⟨-, hlast | ⟨mid, hmid, hpass⟩ | ⟨start, names', hstart, hpass⟩⟩ :=
      passNames_cons_standing ht hhere h
    · -- the name is not the last one, since others are followed behind it
      exact absurd (List.append_eq_nil_iff.mp hlast).2 hrest
    · rw [hpass]
      exact ih hmid (hpass _ ▸ h)
    · -- the names of the target and those that are left, with the same ones behind them
      rw [List.cons_append, hpass, ← List.append_assoc] at h
      rw [hpass]
      exact hfollow _ _ hstart h

/-- Names behind which others are followed within a number of links lead to a directory. -/
theorem exists_locateFrom_of_append (hrest : rest ≠ []) (hhere : Standing t here)
    (h : t.locateFrom true n here (names ++ rest) = .ok place) :
    ∃ d, t.locateFrom true n here names = .ok d ∧ Standing t d := by
  induction n generalizing here names with
  | zero => exact exists_passNames_of_append ht hrest (fun _ _ _ h => (nomatch h)) hhere h
  | succ n ih => exact exists_passNames_of_append ht hrest (fun _ _ hstart h => ih hstart h) hhere h

/-- Directories stand on the way to a directory that names lead to. -/
theorem standing_of_locateFrom (hnames : ∀ s ∈ names, s ≠ "") (hhere : Standing t here)
    (h : t.locateFrom true n here names = .ok place) (hplace : t.find? place = some .directory) :
    Standing t place := by
  -- behind the names the name `.` is followed from the directory
  obtain ⟨k, -, happend⟩ := exists_locateFrom_append hnames h hplace
  have hdot : t.locateFrom true k place ["."] = .ok place := by
    cases k <;> rfl
  obtain ⟨d, hd, hstanding⟩ := exists_locateFrom_of_append ht (List.cons_ne_nil "." []) hhere
    ((happend ["."]).trans hdot)
  cases h.symm.trans hd
  exact hstanding

/-- Names that are followed hold no NUL character. -/
theorem nameable_of_passNames
    (hfollow : ∀ start names, Standing t start → follow start names = .ok place →
      ∀ s ∈ names, ∀ c ∈ s.toList, c.toNat ≠ 0)
    (hhere : Standing t here) (h : t.passNames true follow here names = .ok place) :
    ∀ s ∈ names, ∀ c ∈ s.toList, c.toNat ≠ 0 := by
  induction names generalizing here with
  | nil => exact fun s hs => (nomatch hs)
  | cons name names ih =>
    obtain ⟨hname, hlast | ⟨mid, hmid, hpass⟩ | ⟨start, names', hstart, hpass⟩⟩ :=
      passNames_cons_standing ht hhere h
    · rw [hlast, List.forall_mem_singleton]
      exact hname
    · rw [hpass] at h
      exact List.forall_mem_cons.mpr ⟨hname, ih hmid h⟩
    · rw [hpass] at h
      exact List.forall_mem_cons.mpr
        ⟨hname, fun s hs => hfollow _ _ hstart h s (List.mem_append_right _ hs)⟩

/-- Names that are followed within a number of links hold no NUL character. -/
theorem nameable_of_locateFrom (hhere : Standing t here)
    (h : t.locateFrom true n here names = .ok place) :
    ∀ s ∈ names, ∀ c ∈ s.toList, c.toNat ≠ 0 := by
  induction n generalizing here names with
  | zero =>
    refine nameable_of_passNames ht (fun start names hstart h => ?_) hhere h
    cases h
  | succ n ih => exact nameable_of_passNames ht (fun _ _ hstart h => ih hstart h) hhere h

/-- A path that can be followed is nameable. -/
theorem isNameable_of_locateFrom {p : Path}
    (h : t.locateFrom true n [] p.names = .ok place) : isNameable p = true := by
  unfold isNameable
  simp only [List.all_eq_true, bne_iff_ne]
  exact nameable_of_locateFrom ht standing_nil h

end Standing

end AgentPackage.FileTree
