import AgentPackage.Package.Model
import AgentPackage.Proofs.Package.Declared
import Mathlib.Logic.Relation

/-!
# Where declared paths lead

A declared path that is relative is walked from the root of the package, one segment after another:
an empty segment and `.` stay, `..` goes up, though never above the directory at the top, and any
other segment goes down. What a path leads to therefore does not depend on how it is spelled: on the
blanks around it, on the kind and the number of its separators, and on segments that lead nowhere.

## Main definitions

* `Declared.follow`, `Declared.walk`: the names that a segment and a declared path lead to;
* `Declared.Respelling`: a text is another one with one thing in it spelled differently.

## Main results

* `Declared.resolve_eq_walk`: a declared path has the names that its segments lead to;
* `Declared.Respelling.walk_eq`: a text that is spelled differently leads to the same names;
* `Declared.resolve_walks`: relative paths are walked, and do not depend on how they are spelled.
-/

namespace AgentPackage.Declared

variable {root : Path} {names : List String} {s s' : String}

/-- The text as which a declared path is read: with slashes, and without the blanks at its ends. -/
def reading (s : String) : String :=
  withSlashes (Text.trim s)

/-- The path is relative as it is read. -/
def IsRelative (s : String) : Prop :=
  Path.anchorOf (reading s) = .relative

instance (s : String) : Decidable (IsRelative s) :=
  inferInstanceAs (Decidable (_ = _))

/-- The names that a segment leads to from a place: an empty segment and `.` stay there, `..` goes
up, from the directory at the top to itself, and any other segment goes down. -/
def follow (names : List String) (segment : String) : List String :=
  if segment = "" ∨ segment = "." then names
  else if segment = ".." then names.dropLast
  else names ++ [segment]

/-- The names that the segments of a declared path lead to, from left to right. -/
def walk (names : List String) (s : String) : List String :=
  (Path.splitSlashes (reading s)).foldl follow names

section Walk

/-- An empty segment and `.` stay. -/
theorem follow_eq_self {segment : String} (h : segment = "" ∨ segment = ".") :
    follow names segment = names :=
  if_pos h

/-- Segments that stay may be left out. -/
theorem foldl_follow_filter (segments : List String) (names : List String) :
    (segments.filter fun n => n != "" && n != ".").foldl follow names =
      segments.foldl follow names := by
  induction segments generalizing names with
  | nil => rfl
  | cons segment segments ih =>
    by_cases hstay : segment = "" ∨ segment = "."
    · rw [List.filter_cons_of_neg (by simpa [or_iff_not_imp_left] using hstay), ih, List.foldl_cons,
        follow_eq_self hstay]
    · rw [not_or] at hstay
      rw [List.filter_cons_of_pos (by simpa using hstay), List.foldl_cons, List.foldl_cons, ih]

/-- Behind an anchor, resolving `..` is following: the names that were passed are kept backwards,
and none of them is a `..`. -/
theorem reverse_normalStep {back : List String} {name : String} (hback : ".." ∉ back)
    (hname : Path.IsName name) :
    (Path.normalStep true back name).reverse = follow back.reverse name ∧
      ".." ∉ Path.normalStep true back name := by
  obtain ⟨hempty, hdot, -⟩ := hname
  by_cases hup : name = ".."
  · subst hup
    cases back with
    | nil => simp [Path.normalStep, follow]
    | cons last rest =>
      rw [List.mem_cons, not_or] at hback
      have hlast : (last == "..") = false := beq_false_of_ne (Ne.symm hback.1)
      simp [Path.normalStep, follow, hlast, hback.2]
  · have hstep : Path.normalStep true back name = name :: back := by simp [Path.normalStep, hup]
    rw [hstep, List.reverse_cons, follow, if_neg (not_or.mpr ⟨hempty, hdot⟩), if_neg hup]
    exact ⟨rfl, List.not_mem_cons_of_ne_of_not_mem (Ne.symm hup) hback⟩

/-- Behind an anchor, the names that were passed are those that the segments lead to. -/
theorem reverse_foldl_normalStep {back segments : List String} (hback : ".." ∉ back)
    (hsegments : ∀ n ∈ segments, Path.IsName n) :
    (segments.foldl (Path.normalStep true) back).reverse = segments.foldl follow back.reverse := by
  induction segments generalizing back with
  | nil => rfl
  | cons segment segments ih =>
    obtain ⟨hsegment, hrest⟩ := List.forall_mem_cons.mp hsegments
    obtain ⟨hstep, hup⟩ := reverse_normalStep hback hsegment
    rw [List.foldl_cons, List.foldl_cons, ih hup hrest, hstep]

/-- A relative path that is declared in a root without `..` has the names that its segments lead to
from there. -/
theorem resolve_eq_walk (habsolute : root.isAbsolute = true) (hup : ".." ∉ root.names)
    (hs : IsRelative s) : resolve root s = ⟨root.anchor, walk root.names s⟩ := by
  have hrelative : (Path.ofString (reading s)).isAbsolute = false := by
    have hanchor : Path.anchorOf (reading s) = .relative := hs
    rw [Path.isAbsolute, Path.ofString, hanchor]
    rfl
  have hresolve : resolve root s = ⟨root.anchor,
      Path.normalNames root.isAbsolute (root.names ++ (Path.ofString (reading s)).names)⟩ := by
    have hchild : resolve root s = (root.join (Path.ofString (reading s))).normalize := rfl
    rw [hchild, Path.join, hrelative]
    rfl
  -- the names of the root are passed first, and kept as they are
  have hroot : root.names.foldl (Path.normalStep true) [] = root.names.reverse :=
    List.reverse_eq_iff.mp (@Path.normalNames_of_notMem true _ hup)
  rw [hresolve, habsolute, Path.normalNames, List.foldl_append, hroot,
    reverse_foldl_normalStep (List.mem_reverse.not.mpr hup) (Path.ofString_proper (reading s)),
    List.reverse_reverse, Path.ofString, foldl_follow_filter, walk]

end Walk

section Spelling

variable {before x after : String}

/-- The text is trimmed. -/
def IsTrimmed (s : String) : Prop :=
  Text.trimChars s.toList = s.toList

instance (s : String) : Decidable (IsTrimmed s) :=
  inferInstanceAs (Decidable (_ = _))

/-- A segment starts behind the text. -/
def AtBoundary (before : String) : Prop :=
  before = "" ∨ ∃ front, before = front ++ "/"

/-- The text is a segment that goes down. -/
def IsOrdinary (x : String) : Prop :=
  x ≠ "" ∧ x ≠ "." ∧ x ≠ ".." ∧ '/' ∉ x.toList ∧ '\\' ∉ x.toList

instance (x : String) : Decidable (IsOrdinary x) :=
  inferInstanceAs (Decidable (_ ∧ _ ∧ _ ∧ _ ∧ _))

/-- The second text is the first one with one thing in it spelled differently. Apart from blanks at
the ends, what is changed is part of a trimmed text, and a segment is put in where one starts. -/
inductive Respelling : String → String → Prop where
  /-- There are blanks around it. -/
  | blanks {before s after : String} (hbefore : ∀ c ∈ before.toList, Text.isBlank c = true)
      (hafter : ∀ c ∈ after.toList, Text.isBlank c = true) : Respelling s (before ++ s ++ after)
  /-- There are backslashes for slashes, or slashes for backslashes. -/
  | separators {s s' : String} (h : withSlashes s = withSlashes s') : Respelling s s'
  /-- A separator in it is repeated. -/
  | repeated {before after : String} (htrim : IsTrimmed (before ++ "/" ++ after)) :
      Respelling (before ++ "/" ++ after) (before ++ "//" ++ after)
  /-- A separator ends it. -/
  | trailing {s : String} (htrim : IsTrimmed s) (hne : s ≠ "") : Respelling s (s ++ "/")
  /-- A segment that stays is put in. -/
  | stay {before after : String} (htrim : IsTrimmed (before ++ after))
      (hrelative : IsRelative (before ++ after)) (hboundary : AtBoundary before) :
      Respelling (before ++ after) (before ++ "./" ++ after)
  /-- A segment that goes down and one that goes up again are put in. -/
  | detour {before x after : String} (htrim : IsTrimmed (before ++ after))
      (hrelative : IsRelative (before ++ after)) (hboundary : AtBoundary before)
      (hx : IsOrdinary x) (htrim' : IsTrimmed (before ++ (x ++ "/../") ++ after)) :
      Respelling (before ++ after) (before ++ (x ++ "/../") ++ after)

/-- A trimmed text is read with slashes only. -/
theorem IsTrimmed.reading_eq (h : IsTrimmed s) : reading s = withSlashes s := by
  have htrim : Text.trimChars s.toList = s.toList := h
  rw [reading, Text.trim, htrim, String.ofList_toList]

/-- What is put into a trimmed text leaves it trimmed, if it is trimmed itself. -/
theorem IsTrimmed.insert (h : IsTrimmed (before ++ after)) {mid : String} (hne : mid ≠ "")
    (hmid : IsTrimmed mid) : IsTrimmed (before ++ mid ++ after) := by
  unfold IsTrimmed at h ⊢
  rw [String.toList_append] at h
  rw [String.toList_append, String.toList_append]
  exact Text.trimChars_insert h (String.toList_eq_nil_iff.not.mpr hne) hmid

/-- Two slashes for one leave a text trimmed. -/
theorem IsTrimmed.double (h : IsTrimmed (before ++ "/" ++ after)) :
    IsTrimmed (before ++ "//" ++ after) := by
  have hdouble : before ++ "//" ++ after = before ++ "/" ++ ("/" ++ after) := by
    apply String.toList_injective
    simp
  rw [String.append_assoc] at h
  rw [hdouble]
  exact h.insert (by decide) (by decide)

/-- A slash at the end leaves a text trimmed. -/
theorem IsTrimmed.concat (h : IsTrimmed s) : IsTrimmed (s ++ "/") := by
  have hinsert : IsTrimmed (s ++ "/" ++ "") :=
    IsTrimmed.insert (by rwa [String.append_empty]) (by decide) (by decide)
  rwa [String.append_empty] at hinsert

/-- A trimmed text is relative if it does not start with a separator. -/
theorem IsTrimmed.isRelative_iff (h : IsTrimmed s) :
    IsRelative s ↔ (withSlashes s).toList.head? ≠ some '/' := by
  rw [IsRelative, h.reading_eq, Path.anchorOf_eq_relative_iff]

/-- Trimmed texts that start in the same way are relative or not together. -/
theorem isRelative_append_iff {after' : String} (h : IsTrimmed (before ++ after))
    (h' : IsTrimmed (before ++ after')) (hne : before ≠ "") :
    IsRelative (before ++ after) ↔ IsRelative (before ++ after') := by
  obtain ⟨c, cs, hbefore⟩ := List.exists_cons_of_ne_nil (String.toList_eq_nil_iff.not.mpr hne)
  rw [h.isRelative_iff, h'.isRelative_iff]
  simp [toList_withSlashes, hbefore]

/-- What is put into a relative text leaves it relative, if it starts with a name. -/
theorem IsRelative.insert {mid : String} (hrelative : IsRelative (before ++ after))
    (h : IsTrimmed (before ++ after)) (h' : IsTrimmed (before ++ (x ++ mid) ++ after))
    (hne : x ≠ "") (hslash : '/' ∉ x.toList) (hback : '\\' ∉ x.toList) :
    IsRelative (before ++ (x ++ mid) ++ after) := by
  by_cases hbefore : before = ""
  · subst hbefore
    obtain ⟨c, cs, hx⟩ := List.exists_cons_of_ne_nil (String.toList_eq_nil_iff.not.mpr hne)
    rw [hx, List.mem_cons, not_or] at hslash hback
    have hwritten : written c ≠ '/' := by
      rw [written, if_neg (beq_iff_eq.not.mpr (Ne.symm hback.1))]
      exact Ne.symm hslash.1
    rw [h'.isRelative_iff]
    simp [toList_withSlashes, hx, hwritten]
  · rw [String.append_assoc] at h' ⊢
    exact (isRelative_append_iff h h' hbefore).mp hrelative

/-- The segments of a text behind a boundary are those in front of the boundary and those behind
it. -/
theorem AtBoundary.exists_splitSlashes (h : AtBoundary before) :
    ∃ segments, ∀ after, Path.splitSlashes (withSlashes (before ++ after)) =
      segments ++ Path.splitSlashes (withSlashes after) := by
  have hslash : withSlashes "/" = "/" := by decide
  rcases h with rfl | ⟨front, rfl⟩
  · exact ⟨[], fun after => by rw [String.empty_append, List.nil_append]⟩
  · refine ⟨Path.splitSlashes (withSlashes front), fun after => ?_⟩
    rw [withSlashes_append, withSlashes_append, hslash, Path.splitSlashes_append]

/-- A segment in front of a slash is the first one that is read. -/
theorem splitSlashes_cons {x : String} (hslash : '/' ∉ x.toList) (hback : '\\' ∉ x.toList)
    (after : String) : Path.splitSlashes (withSlashes (x ++ "/" ++ after)) =
      x :: Path.splitSlashes (withSlashes after) := by
  have hwritten : withSlashes x = x := by
    apply String.toList_injective
    rw [toList_withSlashes, map_written_of_notMem hback]
  have hsep : ∀ c ∈ x.toList, (c == '/') = false := fun c hc =>
    beq_eq_false_iff_ne.mpr (ne_of_mem_of_not_mem hc hslash)
  have hx : Path.splitSlashes x = [x] := by
    rw [Path.splitSlashes, Text.split, Text.splitFrom_of_forall hsep]
    simp
  have hseparator : withSlashes "/" = "/" := by decide
  rw [withSlashes_append, withSlashes_append, hseparator, Path.splitSlashes_append, hwritten, hx,
    List.singleton_append]

/-- Blanks around a text are not read. -/
theorem reading_append_blanks (hbefore : ∀ c ∈ before.toList, Text.isBlank c = true)
    (hafter : ∀ c ∈ after.toList, Text.isBlank c = true) :
    reading (before ++ s ++ after) = reading s := by
  rw [reading, reading, Text.trim, Text.trim, String.toList_append, String.toList_append,
    Text.trimChars_append hbefore hafter]

/-- Backslashes are read as slashes. -/
theorem reading_eq_of_withSlashes (h : withSlashes s = withSlashes s') :
    reading s = reading s' := by
  rw [reading, reading, ← trim_withSlashes, ← trim_withSlashes, h]

/-- A text that is spelled differently leads to the same names. -/
theorem Respelling.walk_eq (h : Respelling s s') (names : List String) :
    walk names s = walk names s' := by
  cases h with
  | blanks hbefore hafter => rw [walk, walk, reading_append_blanks hbefore hafter]
  | separators h => rw [walk, walk, reading_eq_of_withSlashes h]
  | @repeated before after htrim =>
    have hdouble : before ++ "//" ++ after = before ++ "/" ++ ("" ++ "/" ++ after) := by
      apply String.toList_injective
      simp
    have hboundary : AtBoundary (before ++ "/") := .inr ⟨before, rfl⟩
    obtain ⟨segments, hsegments⟩ := hboundary.exists_splitSlashes
    rw [walk, walk, htrim.reading_eq, htrim.double.reading_eq, hdouble, hsegments, hsegments,
      splitSlashes_cons (by simp) (by simp), List.foldl_append, List.foldl_append, List.foldl_cons,
      follow_eq_self (.inl rfl)]
  | trailing htrim hne =>
    have hsplit : Path.splitSlashes (withSlashes (s ++ "/")) =
        Path.splitSlashes (withSlashes s) ++ [""] := by
      have hslash : withSlashes "/" = "/" := by decide
      rw [withSlashes_append, hslash, ← String.append_empty (s := withSlashes s ++ "/"),
        Path.splitSlashes_append]
      rfl
    rw [walk, walk, htrim.reading_eq, htrim.concat.reading_eq, hsplit, List.foldl_append,
      List.foldl_cons, List.foldl_nil, follow_eq_self (.inl rfl)]
  | @stay before after htrim hrelative hboundary =>
    have htrim' : IsTrimmed (before ++ "./" ++ after) := htrim.insert (by decide) (by decide)
    have hdot : before ++ "./" ++ after = before ++ ("." ++ "/" ++ after) := by
      apply String.toList_injective
      simp
    obtain ⟨segments, hsegments⟩ := hboundary.exists_splitSlashes
    rw [walk, walk, htrim.reading_eq, htrim'.reading_eq, hdot, hsegments, hsegments,
      splitSlashes_cons (by simp) (by simp), List.foldl_append, List.foldl_append, List.foldl_cons,
      follow_eq_self (.inr rfl)]
  | @detour before x after htrim hrelative hboundary hx htrim' =>
    obtain ⟨hempty, hdot, hup, hslash, hback⟩ := hx
    have hsegment : before ++ (x ++ "/../") ++ after =
        before ++ (x ++ "/" ++ (".." ++ "/" ++ after)) := by
      apply String.toList_injective
      simp
    have hfollow : ∀ names, follow (follow names x) ".." = names := by
      intro names
      simp [follow, hempty, hdot, hup]
    obtain ⟨segments, hsegments⟩ := hboundary.exists_splitSlashes
    rw [walk, walk, htrim.reading_eq, htrim'.reading_eq, hsegment, hsegments, hsegments,
      splitSlashes_cons hslash hback, splitSlashes_cons (by simp) (by simp), List.foldl_append,
      List.foldl_append, List.foldl_cons, List.foldl_cons, hfollow]

/-- A text that is spelled differently is relative if the other one is. -/
theorem Respelling.isRelative_iff (h : Respelling s s') : IsRelative s ↔ IsRelative s' := by
  cases h with
  | blanks hbefore hafter => rw [IsRelative, IsRelative, reading_append_blanks hbefore hafter]
  | separators h => rw [IsRelative, IsRelative, reading_eq_of_withSlashes h]
  | @repeated before after htrim =>
    have hdouble := htrim.double
    rw [htrim.isRelative_iff, hdouble.isRelative_iff]
    by_cases hne : before = ""
    · subst hne
      simp [toList_withSlashes, written]
    · obtain ⟨c, cs, hbefore⟩ := List.exists_cons_of_ne_nil (String.toList_eq_nil_iff.not.mpr hne)
      simp [toList_withSlashes, hbefore]
  | trailing htrim hne =>
    have htrim' : IsTrimmed (s ++ "") := by rwa [String.append_empty]
    have hstart := isRelative_append_iff htrim' htrim.concat hne
    rwa [String.append_empty] at hstart
  | @stay before after htrim hrelative hboundary =>
    have htrim' : IsTrimmed (before ++ ("." ++ "/") ++ after) :=
      htrim.insert (by decide) (by decide)
    have hdot : "." ++ "/" = "./" := by decide
    have hinsert := hrelative.insert htrim htrim' (by decide) (by decide) (by decide)
    rw [hdot] at hinsert
    exact iff_of_true hrelative hinsert
  | detour htrim hrelative hboundary hx htrim' =>
    obtain ⟨hempty, -, -, hslash, hback⟩ := hx
    exact iff_of_true hrelative (hrelative.insert htrim htrim' hempty hslash hback)

/-- However often a text is spelled differently, it stays relative and leads to the same names. -/
theorem eqvGen_respelling (h : Relation.EqvGen Respelling s s') :
    (IsRelative s ↔ IsRelative s') ∧ ∀ names, walk names s = walk names s' := by
  induction h with
  | rel s s' h => exact ⟨h.isRelative_iff, h.walk_eq⟩
  | refl s => exact ⟨Iff.rfl, fun _ => rfl⟩
  | symm s s' _ ih => exact ⟨ih.1.symm, fun names => (ih.2 names).symm⟩
  | trans s s' s'' _ _ ih ih' =>
    exact ⟨ih.1.trans ih'.1, fun names => (ih.2 names).trans (ih'.2 names)⟩

end Spelling

/-- A relative path that is declared in a root without `..` stands for the absolute path whose names
its segments lead to from the root. A text that is spelled differently stands for the same path, and
that path is there or not for both. -/
theorem resolve_walks (hroot : root.anchor = .root) (hproper : root.Proper)
    (hup : ".." ∉ root.names) (hs : IsRelative s) :
    ((resolve root s).anchor = .root ∧ (resolve root s).Proper ∧ ".." ∉ (resolve root s).names ∧
      (resolve root s).names = walk root.names s) ∧
    ∀ s', Relation.EqvGen Respelling s s' → IsRelative s' ∧ resolve root s' = resolve root s ∧
      ∀ (t : FileTree) (p : Package), p.root = root →
        p.pathExists t (resolve p.root s') = p.pathExists t (resolve p.root s) := by
  have habsolute : root.isAbsolute = true := by
    rw [Path.isAbsolute, hroot]
    rfl
  have hnormal : ".." ∉ (resolve root s).names :=
    Path.up_notMem_normalize (Path.join_isAbsolute habsolute)
  have hwalk := resolve_eq_walk habsolute hup hs
  refine ⟨⟨by rw [hwalk, hroot], resolve_proper hproper s, hnormal, by rw [hwalk]⟩, ?_⟩
  intro s' hspelled
  obtain ⟨hiff, hsame⟩ := eqvGen_respelling hspelled
  have hresolve : resolve root s' = resolve root s := by
    rw [resolve_eq_walk habsolute hup (hiff.mp hs), hwalk, hsame]
  exact ⟨hiff.mp hs, hresolve, fun t p hp => by rw [hp, hresolve]⟩

set_option maxRecDepth 10000 in
/-- The path of a text is spelled in a way with every difference, and a path that goes up more often
than there are directories ends at the top. -/
theorem resolve_walks_text :
    resolve ⟨.root, ["project", "pkg"]⟩ " .\\a//x/../b.txt/ " =
      resolve ⟨.root, ["project", "pkg"]⟩ "a/b.txt" ∧
    (resolve ⟨.root, ["project", "pkg"]⟩ "a/b.txt").names = ["project", "pkg", "a", "b.txt"] ∧
    (resolve ⟨.root, ["project", "pkg"]⟩ "../x/../../../../shared").names = ["shared"] := by
  have hspace : ∀ c ∈ " ".toList, Text.isBlank c = true := by
    rw [show " ".toList = [' '] from rfl, List.forall_mem_singleton]
    decide
  have hdetour : Respelling "a/b.txt" "a/x/../b.txt" :=
    @Respelling.detour "a/" "x" "b.txt" (by decide) (by decide) (.inr ⟨"a", rfl⟩) (by decide)
      (by decide)
  have hrepeated : Respelling "a/x/../b.txt" "a//x/../b.txt" :=
    @Respelling.repeated "a" "x/../b.txt" (by decide)
  have hstay : Respelling "a//x/../b.txt" "./a//x/../b.txt" :=
    @Respelling.stay "" "a//x/../b.txt" (by decide) (by decide) (.inl rfl)
  have htrailing : Respelling "./a//x/../b.txt" "./a//x/../b.txt/" :=
    .trailing (by decide) (by decide)
  have hblanks : Respelling "./a//x/../b.txt/" " ./a//x/../b.txt/ " :=
    @Respelling.blanks " " "./a//x/../b.txt/" " " hspace hspace
  have hseparators : Respelling " ./a//x/../b.txt/ " " .\\a//x/../b.txt/ " :=
    .separators (by decide)
  have hspelled : Relation.EqvGen Respelling "a/b.txt" " .\\a//x/../b.txt/ " :=
    .trans _ _ _ (.rel _ _ hdetour) <| .trans _ _ _ (.rel _ _ hrepeated) <|
      .trans _ _ _ (.rel _ _ hstay) <| .trans _ _ _ (.rel _ _ htrailing) <|
      .trans _ _ _ (.rel _ _ hblanks) (.rel _ _ hseparators)
  obtain ⟨⟨-, -, -, hnames⟩, hsame⟩ := @resolve_walks ⟨.root, ["project", "pkg"]⟩
    "a/b.txt" rfl (by decide) (by decide) (by decide)
  obtain ⟨⟨-, -, -, hshared⟩, -⟩ := @resolve_walks ⟨.root, ["project", "pkg"]⟩
    "../x/../../../../shared" rfl (by decide) (by decide) (by decide)
  exact ⟨(hsame _ hspelled).2.1, hnames.trans (by decide), hshared.trans (by decide)⟩

end AgentPackage.Declared
