import AgentPackage.Failure
import AgentPackage.Package.Declared

/-!
# Names in paths

A path is shown as its names between slashes. The name of a file is not empty, is not `.` and holds
no slash, so that reading the text of a path gives the path back as long as its names could be those
of files. Such are the names of paths that are read from texts, and joining paths, resolving `..`
and removing links keep to them.

## Main definitions

* `Path.IsName`: the text could be the name of a file;
* `Path.Proper`, `FileTree.Proper`: all names of a path, or of a tree, could be those of files;
* `Path.Settled`: no `..` among names can be resolved.

## Main results

* `Path.ofString_text`: reading the text of an absolute path with proper names;
* `Path.text_injective`: such paths are told apart by their texts;
* `Path.normalize_normalize`: a path has one normal form;
* `FileTree.resolve_proper`: the path without links that a proper path leads to is proper.
-/

namespace AgentPackage

namespace Text

variable {p : Char → Bool}

/-- No part between separators holds a separator. -/
theorem of_mem_splitFrom {part cs x : List Char} (hpart : ∀ c ∈ part, p c = false)
    (hx : x ∈ splitFrom p part cs) : ∀ c ∈ x, p c = false := by
  -- `part` is what was read since the last separator, backwards
  induction cs generalizing part with
  | nil =>
    rw [splitFrom, List.mem_singleton] at hx
    subst hx
    intro c hc
    exact hpart c (List.mem_reverse.mp hc)
  | cons c cs ih =>
    rw [splitFrom] at hx
    split at hx
    · rcases List.mem_cons.mp hx with rfl | hx
      · intro c hc
        exact hpart c (List.mem_reverse.mp hc)
      · exact ih (fun c hc => by cases hc) hx
    · rename_i hc
      refine ih (fun c' hc' => ?_) hx
      rcases List.mem_cons.mp hc' with rfl | hc'
      · exact Bool.not_eq_true _ ▸ hc
      · exact hpart c' hc'

/-- The rest of a part is read up to the end if there is no separator. -/
theorem splitFrom_of_forall {part cs : List Char} (h : ∀ c ∈ cs, p c = false) :
    splitFrom p part cs = [part.reverse ++ cs] := by
  induction cs generalizing part with
  | nil => rw [splitFrom, List.append_nil]
  | cons c cs ih =>
    rw [List.forall_mem_cons] at h
    rw [splitFrom, h.1, if_neg Bool.false_ne_true, ih h.2]
    simp

/-- What is between separators does not depend on what is behind the next one. -/
theorem splitFrom_append_cons {part cs rest : List Char} {sep : Char} (hsep : p sep = true) :
    splitFrom p part (cs ++ sep :: rest) = splitFrom p part cs ++ split p rest := by
  induction cs generalizing part with
  | nil =>
    simp only [List.nil_append, splitFrom, hsep, if_true]
    rfl
  | cons c cs ih =>
    rw [List.cons_append, splitFrom, splitFrom]
    by_cases hc : p c = true
    · rw [if_pos hc, if_pos hc, ih, List.cons_append]
    · rw [if_neg hc, if_neg hc, ih]

/-- The rest of a part is read up to the first separator. -/
theorem splitFrom_append {part cs rest : List Char} {sep : Char} (h : ∀ c ∈ cs, p c = false)
    (hsep : p sep = true) :
    splitFrom p part (cs ++ sep :: rest) = (part.reverse ++ cs) :: split p rest := by
  rw [splitFrom_append_cons hsep, splitFrom_of_forall h, List.singleton_append]

end Text

namespace Path

/-- The text could be the name of a file: it is not empty, is not `.` and holds no slash. -/
def IsName (name : String) : Prop :=
  name ≠ "" ∧ name ≠ "." ∧ '/' ∉ name.toList

instance (name : String) : Decidable (IsName name) :=
  inferInstanceAs (Decidable (_ ∧ _ ∧ _))

/-- All names of the path could be those of files. -/
def Proper (p : Path) : Prop :=
  ∀ name ∈ p.names, IsName name

instance (p : Path) : Decidable p.Proper :=
  inferInstanceAs (Decidable (∀ name ∈ p.names, IsName name))

section Text

/-- No part of a text between slashes holds a slash. -/
theorem slash_notMem_of_mem_splitSlashes {s part : String} (h : part ∈ splitSlashes s) :
    '/' ∉ part.toList := by
  obtain ⟨cs, hcs, rfl⟩ := List.mem_map.mp h
  rw [String.toList_ofList]
  intro hslash
  have := Text.of_mem_splitFrom (fun c hc => by cases hc) hcs '/' hslash
  simp at this

/-- The names of a path that is read from a text could be those of files. -/
theorem ofString_proper (s : String) : (ofString s).Proper := by
  intro name hname
  obtain ⟨hmem, hne⟩ := List.mem_filter.mp hname
  rw [Bool.and_eq_true, bne_iff_ne, bne_iff_ne] at hne
  exact ⟨hne.1, hne.2, slash_notMem_of_mem_splitSlashes hmem⟩

/-- The parts of names between slashes are the names. -/
theorem splitSlashes_intercalate {names : List String} (h : ∀ n ∈ names, IsName n)
    (hne : names ≠ []) : splitSlashes ("/".intercalate names) = names := by
  have hslash : ∀ n, IsName n → ∀ c ∈ n.toList, (c == '/') = false := by
    intro n hn c hc
    rw [beq_eq_false_iff_ne]
    rintro rfl
    exact hn.2.2 hc
  -- the last name is not followed by a slash, so two names are looked at in each step
  induction names with
  | nil => exact absurd rfl hne
  | cons n names ih =>
    rw [List.forall_mem_cons] at h
    unfold splitSlashes
    cases names with
    | nil =>
      rw [String.intercalate_singleton, Text.split, Text.splitFrom_of_forall (hslash n h.1)]
      simp
    | cons m names =>
      have hrest := ih h.2 (List.cons_ne_nil m names)
      unfold splitSlashes at hrest
      have hsep : ("/" : String).toList = ['/'] := rfl
      rw [String.intercalate_cons_cons, String.toList_append, String.toList_append, hsep,
        List.append_assoc, List.singleton_append, Text.split,
        Text.splitFrom_append (hslash n h.1) (by rfl), List.map_cons, hrest]
      simp

/-- The parts of a text behind a slash. -/
theorem splitSlashes_slash (s : String) : splitSlashes ("/" ++ s) = "" :: splitSlashes s := by
  unfold splitSlashes
  rw [String.toList_append]
  rfl

/-- The parts of two texts with a slash between them are those of the one and then those of the
other. -/
theorem splitSlashes_append (s s' : String) :
    splitSlashes (s ++ "/" ++ s') = splitSlashes s ++ splitSlashes s' := by
  have hlist : (s ++ "/" ++ s').toList = s.toList ++ '/' :: s'.toList := by
    rw [String.toList_append, String.toList_append, List.append_assoc]
    rfl
  rw [splitSlashes, hlist, Text.split, Text.splitFrom_append_cons (by rfl), List.map_append]
  rfl

/-- The first character of names between slashes is not a slash. -/
theorem intercalate_ne_slash {names : List String} (h : ∀ n ∈ names, IsName n) (cs : List Char) :
    ("/".intercalate names).toList ≠ '/' :: cs := by
  cases names with
  | nil => simp
  | cons n names =>
    obtain ⟨⟨hne, -, hslash⟩, -⟩ := List.forall_mem_cons.mp h
    -- the text starts with the first name, whether or not another one follows
    have hstart : ∃ rest, ("/".intercalate (n :: names)).toList = n.toList ++ rest := by
      cases names with
      | nil => exact ⟨[], by rw [String.intercalate_singleton, List.append_nil]⟩
      | cons m names =>
        rw [String.intercalate_cons_cons, String.append_assoc, String.toList_append]
        exact ⟨_, rfl⟩
    obtain ⟨rest, hrest⟩ := hstart
    rw [hrest]
    intro heq
    cases hn : n.toList with
    | nil => exact hne (String.toList_eq_nil_iff.mp hn)
    | cons c cs' =>
      rw [hn, List.cons_append] at heq
      obtain rfl : c = '/' := (List.cons.inj heq).1
      exact hslash (hn ▸ List.mem_cons_self)

/-- The anchor of a text with one slash in front of it. -/
theorem anchorOf_slash {s : String} (h : ∀ cs, s.toList ≠ '/' :: cs) :
    anchorOf ("/" ++ s) = .root := by
  have hsep : ("/" ++ s).toList = '/' :: s.toList := by rw [String.toList_append]; rfl
  unfold anchorOf
  rw [hsep]
  cases hs : s.toList with
  | nil => rfl
  | cons c cs =>
    have hc : c ≠ '/' := fun heq => h cs (heq ▸ hs)
    simp [hc]

/-- The anchor of a text with two slashes in front of it. -/
theorem anchorOf_slashes {s : String} (h : ∀ cs, s.toList ≠ '/' :: cs) :
    anchorOf ("//" ++ s) = .doubleRoot := by
  have hsep : ("//" ++ s).toList = '/' :: '/' :: s.toList := by rw [String.toList_append]; rfl
  unfold anchorOf
  rw [hsep]
  cases hs : s.toList with
  | nil => rfl
  | cons c cs =>
    have hc : c ≠ '/' := fun heq => h cs (heq ▸ hs)
    simp [hc]

/-- A text is that of a relative path if it does not start with a slash. -/
theorem anchorOf_eq_relative_iff {s : String} :
    anchorOf s = .relative ↔ s.toList.head? ≠ some '/' := by
  unfold anchorOf
  split
  · rename_i hs
    simp [hs]
  · rename_i hs
    simp [hs]
  · rename_i hs
    simp [hs]
  · rename_i hslash
    refine ⟨fun _ hhead => ?_, fun _ => rfl⟩
    obtain ⟨cs, hs⟩ := List.head?_eq_some_iff.mp hhead
    exact hslash cs hs

/-- Names between slashes are read back as a relative path, if they could be those of files. -/
theorem ofString_intercalate {names : List String} (h : ∀ n ∈ names, IsName n) (hne : names ≠ []) :
    ofString ("/".intercalate names) = ⟨.relative, names⟩ := by
  have hanchor : anchorOf ("/".intercalate names) = .relative := by
    have hstart := intercalate_ne_slash h
    unfold anchorOf
    cases hcs : ("/".intercalate names).toList with
    | nil => rfl
    | cons c cs =>
      have hc : c ≠ '/' := fun heq => hstart cs (heq ▸ hcs)
      simp [hc]
  rw [ofString, hanchor, splitSlashes_intercalate h hne]
  refine congrArg (Path.mk .relative) (List.filter_eq_self.mpr fun n hn => ?_)
  obtain ⟨hempty, hdot, -⟩ := h n hn
  simp [hempty, hdot]

/-- Reading the text of an absolute path gives the path back, if its names could be those of
files. -/
theorem ofString_text {p : Path} (h : p.Proper) (habs : p.isAbsolute = true) :
    ofString p.text = p := by
  obtain ⟨anchor, names⟩ := p
  -- behind the anchor the names are read back, and none of them is dropped
  have hnames : (splitSlashes ("/".intercalate names)).filter
      (fun n => n != "" && n != ".") = names := by
    cases names with
    | nil => rfl
    | cons n names =>
      rw [splitSlashes_intercalate h (List.cons_ne_nil n names), List.filter_eq_self]
      intro m hm
      obtain ⟨hne, hdot, -⟩ := h m hm
      simp [hne, hdot]
  -- the anchor is read off the number of slashes in front, which the names do not add to
  have hstart := intercalate_ne_slash h
  cases anchor with
  | relative => cases habs
  | root =>
    show ofString ("/" ++ "/".intercalate names) = _
    rw [ofString, anchorOf_slash hstart, splitSlashes_slash]
    exact congrArg (Path.mk .root) hnames
  | doubleRoot =>
    have hslashes : "//" ++ "/".intercalate names = "/" ++ ("/" ++ "/".intercalate names) := by
      rw [← String.append_assoc]
      rfl
    show ofString ("//" ++ "/".intercalate names) = _
    rw [ofString, anchorOf_slashes hstart, hslashes, splitSlashes_slash, splitSlashes_slash]
    exact congrArg (Path.mk .doubleRoot) hnames

/-- Absolute paths whose names could be those of files are told apart by their texts. -/
theorem text_injective {p q : Path} (hp : p.Proper) (hq : q.Proper) (hpabs : p.isAbsolute = true)
    (hqabs : q.isAbsolute = true) (h : p.text = q.text) : p = q := by
  rw [← ofString_text hp hpabs, ← ofString_text hq hqabs, h]

end Text

section Joining

variable {p q : Path}

theorem entry_proper (h : p.Proper) {name : String} (hname : IsName name) :
    (p.entry name).Proper := by
  intro n hn
  rcases List.mem_append.mp hn with hn | hn
  · exact h n hn
  · rw [List.mem_singleton.mp hn]
    exact hname

theorem join_proper (hp : p.Proper) (hq : q.Proper) : (p.join q).Proper := by
  unfold join
  split
  · exact hq
  · intro n hn
    rcases List.mem_append.mp hn with hn | hn
    · exact hp n hn
    · exact hq n hn

theorem join_isAbsolute (hp : p.isAbsolute = true) : (p.join q).isAbsolute = true := by
  unfold join
  split
  · assumption
  · exact hp

theorem child_proper (hp : p.Proper) (s : String) : (p.child s).Proper :=
  join_proper hp (ofString_proper s)

/-- A step of resolving `..` keeps names, drops them, or adds a `..`. -/
theorem mem_normalStep {absolute : Bool} {back : List String} {name n : String}
    (h : n ∈ normalStep absolute back name) : n = name ∨ n = ".." ∨ n ∈ back := by
  unfold normalStep at h
  split at h
  · split at h
    · split at h
      · cases h
      · exact .inr (.inl (List.mem_singleton.mp h))
    · split at h
      · rcases List.mem_cons.mp h with h | h
        · exact .inr (.inl h)
        · exact .inr (.inr h)
      · exact .inr (.inr (List.mem_cons_of_mem _ h))
  · rcases List.mem_cons.mp h with h | h
    · exact .inl h
    · exact .inr (.inr h)

theorem normalize_isAbsolute (p : Path) : p.normalize.isAbsolute = p.isAbsolute := rfl

theorem normalize_proper (h : p.Proper) : p.normalize.Proper := by
  have hdots : IsName ".." := by decide
  -- the names that were passed are kept backwards in `back`; both lists stay proper
  have key : ∀ (names back : List String), (∀ n ∈ names, IsName n) → (∀ n ∈ back, IsName n) →
      ∀ n ∈ names.foldl (normalStep p.isAbsolute) back, IsName n := by
    intro names
    induction names with
    | nil => exact fun back _ hback => hback
    | cons name names ih =>
      intro back hnames hback
      rw [List.forall_mem_cons] at hnames
      refine ih _ hnames.2 fun n hn => ?_
      rcases mem_normalStep hn with rfl | rfl | hn
      · exact hnames.1
      · exact hdots
      · exact hback n hn
  intro n hn
  exact key p.names [] h (fun n hn => by cases hn) n (List.mem_reverse.mp hn)

/-- In an absolute path every `..` can be resolved. -/
theorem up_notMem_normalize (h : p.isAbsolute = true) : ".." ∉ p.normalize.names := by
  have key : ∀ (names back : List String), ".." ∉ back →
      ".." ∉ names.foldl (normalStep true) back := by
    intro names
    induction names with
    | nil => exact fun back hback => hback
    | cons name names ih =>
      intro back hback
      apply ih
      unfold normalStep
      split
      · cases back with
        | nil => simp
        | cons last rest =>
          rw [List.mem_cons, not_or] at hback
          have hlast : (last == "..") = false := beq_false_of_ne fun h => hback.1 h.symm
          dsimp only
          rw [hlast]
          exact hback.2
      · rename_i hname
        rw [List.mem_cons, not_or]
        exact ⟨fun h => hname (by simp [h]), hback⟩
  show ".." ∉ normalNames p.isAbsolute p.names
  rw [h]
  exact fun hup => key p.names [] (by simp) (List.mem_reverse.mp hup)

end Joining

section Normal

variable {absolute : Bool} {back : List String} {name : String}

/-- Every name was put in front of those behind it, so that no `..` among the names can be resolved.
The names are given backwards. -/
def Settled (absolute : Bool) : List String → Prop
  | [] => True
  | name :: back => normalStep absolute back name = name :: back ∧ Settled absolute back

/-- A step of resolving `..` leaves no `..` that can be resolved. -/
theorem Settled.normalStep (h : Settled absolute back) (name : String) :
    Settled absolute (normalStep absolute back name) := by
  by_cases hname : name = ".."
  · subst hname
    cases back with
    | nil => cases absolute <;> simp [Settled, Path.normalStep]
    | cons last rest =>
      by_cases hlast : last = ".."
      · subst hlast
        exact ⟨rfl, h⟩
      · have hstep : Path.normalStep absolute (last :: rest) ".." = rest := by
          simp [Path.normalStep, hlast]
        rw [hstep]
        exact h.2
  · have hstep : Path.normalStep absolute back name = name :: back := by
      simp [Path.normalStep, hname]
    rw [hstep]
    exact ⟨hstep, h⟩

theorem settled_foldl (names : List String) (h : Settled absolute back) :
    Settled absolute (names.foldl (Path.normalStep absolute) back) := by
  induction names generalizing back with
  | nil => exact h
  | cons name names ih => exact ih (h.normalStep name)

/-- Names without a `..` that can be resolved are put in front of each other again. -/
theorem Settled.foldl_reverse (h : Settled absolute back) :
    back.reverse.foldl (Path.normalStep absolute) [] = back := by
  induction back with
  | nil => rfl
  | cons name back ih =>
    rw [List.reverse_cons, List.foldl_append, ih h.2]
    exact h.1

/-- A path has one normal form. -/
@[simp]
theorem normalize_normalize (p : Path) : p.normalize.normalize = p.normalize := by
  have hsettled : Settled p.isAbsolute (p.names.foldl (normalStep p.isAbsolute) []) :=
    settled_foldl p.names trivial
  simp only [normalize, normalNames, isAbsolute] at hsettled ⊢
  rw [hsettled.foldl_reverse]

end Normal

end Path

namespace FileTree

/-- All names in the tree could be those of files. -/
def Proper (t : FileTree) : Prop :=
  ∀ x ∈ t.entries, ∀ name ∈ x.1, Path.IsName name

instance (t : FileTree) : Decidable t.Proper :=
  inferInstanceAs (Decidable (∀ x ∈ t.entries, ∀ name ∈ x.1, Path.IsName name))

/-- The names of the entries of a directory could be those of files. -/
theorem Proper.childNames {t : FileTree} (h : t.Proper) {place : Place} {name : String}
    (hname : name ∈ t.childNames place) : Path.IsName name := by
  have hmem := (Sorting.sort_perm _ _).mem_iff.mp hname
  obtain ⟨x, hx, hlast⟩ := List.mem_filterMap.mp hmem
  split at hlast
  · exact h x hx name (List.mem_of_getLast? hlast)
  · cases hlast

section Links

/-- All names of the place could be those of files. -/
def IsPlace (place : Place) : Prop :=
  ∀ name ∈ place, Path.IsName name

/-- The place that removing links leads to has proper names, and so has the path at which it is
given up. -/
def ProperResult : Except Path Place → Prop
  | .ok place => IsPlace place
  | .error path => path.Proper ∧ path.isAbsolute = true

theorem isPlace_append {place : Place} {name : String} (h : IsPlace place)
    (hname : Path.IsName name) : IsPlace (place ++ [name]) :=
  Path.entry_proper (p := ⟨.root, place⟩) h hname

variable {t : FileTree} {active : List Place} {here : Place} {names : List String}

/-- Removing links keeps to proper names if entering a link does. The parts of a path that are left
may be empty, but hold no slash. -/
theorem removeLinks_proper {enter : List Place → Place → List String → Except Path Place}
    (henter : ∀ active here names, (∀ link ∈ active, IsPlace link) → IsPlace here →
      (∀ n ∈ names, '/' ∉ n.toList) → ProperResult (enter active here names))
    (hactive : ∀ link ∈ active, IsPlace link) (hhere : IsPlace here)
    (hnames : ∀ n ∈ names, '/' ∉ n.toList) :
    ProperResult (t.removeLinks enter active here names) := by
  -- along the names that are left; `here` is the place reached so far, without links
  induction names generalizing here with
  | nil => exact hhere
  | cons name rest ih =>
    rw [List.forall_mem_cons] at hnames
    obtain ⟨hslash, hrest⟩ := hnames
    unfold removeLinks
    split
    · -- an empty name or a `.` stays where it is
      exact ih hhere hrest
    · rename_i hskip
      rw [Bool.or_eq_true, beq_iff_eq, beq_iff_eq, not_or] at hskip
      have hname : Path.IsName name := ⟨hskip.1, hskip.2, hslash⟩
      split
      · -- a `..` goes up
        exact ih (fun n hn => hhere n (List.dropLast_subset here hn)) hrest
      · have hlink := isPlace_append hhere hname
        split
        · rename_i target _
          dsimp only
          split
          · -- the link is being followed already, so the path is given up at it
            have hpath : (Path.mk .root (here ++ [name])).Proper := hlink
            exact ⟨Path.child_proper hpath _, Path.join_isAbsolute rfl⟩
          · -- the target is entered, and the rest goes on from where it leads
            have hentered := henter ((here ++ [name]) :: active)
              (if Path.anchorOf target == .relative then here else [])
              (Path.splitSlashes target)
              (List.forall_mem_cons.mpr ⟨hlink, hactive⟩)
              (by split <;> first | exact hhere | exact fun n hn => by cases hn)
              (fun n hn => Path.slash_notMem_of_mem_splitSlashes hn)
            split
            · rename_i place hplace
              rw [hplace] at hentered
              exact ih hentered hrest
            · rename_i path hpath
              rw [hpath] at hentered
              exact ⟨Path.child_proper hentered.1 _, Path.join_isAbsolute hentered.2⟩
        · exact ih hlink hrest

/-- Removing links within a budget keeps to proper names. -/
theorem canonicalFrom_proper (budget : Nat) (hactive : ∀ link ∈ active, IsPlace link)
    (hhere : IsPlace here) (hnames : ∀ n ∈ names, '/' ∉ n.toList) :
    ProperResult (t.canonicalFrom budget active here names) := by
  -- the budget bounds how many links are entered inside each other
  induction budget generalizing active here names with
  | zero =>
    refine removeLinks_proper (fun active _ _ hactive _ _ => ⟨?_, rfl⟩) hactive hhere hnames
    cases active with
    | nil => exact fun n hn => by cases hn
    | cons link active => exact hactive link List.mem_cons_self
  | succ budget ih =>
    exact removeLinks_proper (fun _ _ _ hactive hhere hnames => ih hactive hhere hnames) hactive
      hhere hnames

/-- The path without links of a proper path is proper and absolute. -/
theorem canonical_proper {p : Path} (h : p.Proper) :
    (t.canonical p).Proper ∧ (t.canonical p).isAbsolute = true := by
  have hresult : ProperResult (t.canonicalFrom t.linkCount [] [] p.names) :=
    canonicalFrom_proper _ (fun _ hlink => by cases hlink) (fun _ hn => by cases hn)
      fun n hn => (h n hn).2.2
  unfold canonical
  cases hcanonical : t.canonicalFrom t.linkCount [] [] p.names with
  | ok place =>
    rw [hcanonical] at hresult
    exact ⟨hresult, rfl⟩
  | error path =>
    rw [hcanonical] at hresult
    -- the path at which links are given up is only cleared of `..`
    exact ⟨Path.normalize_proper hresult.1, hresult.2⟩

/-- A proper path seen from a proper directory is proper. -/
theorem absolute_proper {cwd p : Path} (hcwd : cwd.Proper) (hp : p.Proper) :
    (absolute cwd p).Proper := by
  unfold absolute
  split
  · exact hp
  · exact Path.join_proper hcwd hp

/-- The path without links that a proper path leads to is proper and absolute. -/
theorem resolve_proper {cwd p real : Path} (hcwd : cwd.Proper) (hp : p.Proper)
    (h : t.resolve cwd p = .ok real) : real.Proper ∧ real.isAbsolute = true := by
  unfold resolve at h
  dsimp only at h
  split at h
  · cases h
  · split at h
    · cases h
    · cases h
      exact canonical_proper (absolute_proper hcwd hp)

end Links

end FileTree

/-- A path that a manifest declares has proper names, seen from a proper root. -/
theorem Declared.resolve_proper {root : Path} (h : root.Proper) (declared : String) :
    (Declared.resolve root declared).Proper :=
  Path.normalize_proper (Path.child_proper h _)

theorem Declared.resolve_isAbsolute {root : Path} (h : root.isAbsolute = true)
    (declared : String) : (Declared.resolve root declared).isAbsolute = true := by
  unfold Declared.resolve
  rw [Path.normalize_isAbsolute]
  exact Path.join_isAbsolute h

end AgentPackage
