import AgentPackage.Proofs.Package.Walk
import AgentPackage.Proofs.Text.Blanks

/-!
# Declared paths

A declared path is read with slashes for backslashes and without the blanks at its ends, and a path
that is shown is written in the same way. What is read again after it was written therefore has a
name of a file as one name, unless that name holds a backslash: then it is taken apart there.

## Main definitions

* `Declared.parts`: what a name is taken apart into.

## Main results

* `Declared.resolve_withSlashes_trim`: a path that is declared again stands for the same place;
* `Declared.resolve_eq_below`: names between slashes stand for a place below the root;
* `Declared.segments_relative`: the names of a path that was written and is read again.
-/

namespace AgentPackage

namespace Text

variable {p : Char → Bool}

/-- Parts between separators are the same parts if characters that are not separators stay. -/
theorem splitFrom_map {f : Char → Char} {q : Char → Bool} {part cs : List Char}
    (hsep : ∀ c ∈ cs, p (f c) = q c) (hkeep : ∀ c ∈ cs, q c = false → f c = c) :
    splitFrom p part (cs.map f) = splitFrom q part cs := by
  induction cs generalizing part with
  | nil => rfl
  | cons c cs ih =>
    rw [List.forall_mem_cons] at hsep hkeep
    rw [List.map_cons, splitFrom, splitFrom, hsep.1]
    by_cases hc : q c = true
    · rw [if_pos hc, if_pos hc, ih hsep.2 hkeep.2]
    · rw [if_neg hc, if_neg hc, ih hsep.2 hkeep.2, hkeep.1 (Bool.not_eq_true _ ▸ hc)]

end Text

namespace Declared

open Index

variable {root : Path} {name : String} {names : List String}

/-- The character that is written for `c`. -/
def written (c : Char) : Char :=
  if c == '\\' then '/' else c

theorem toList_withSlashes (s : String) : (withSlashes s).toList = s.toList.map written := by
  rw [withSlashes, String.toList_ofList]
  rfl

/-- Neither a slash nor a backslash is a blank. -/
theorem isBlank_written (c : Char) : Text.isBlank (written c) = Text.isBlank c := by
  unfold written
  split
  · rename_i hc
    rw [beq_iff_eq.mp hc]
    rfl
  · rfl

/-- What is written holds no backslash. -/
theorem written_written (c : Char) : written (written c) = written c := by
  by_cases hc : c = '\\'
  · rw [hc]
    rfl
  · simp [written, hc]

/-- Where there is no backslash, what is written is what there was. -/
theorem map_written_of_notMem {cs : List Char} (h : '\\' ∉ cs) : cs.map written = cs := by
  refine (List.map_congr_left fun c hc => ?_).trans (List.map_id cs)
  simp [written, ne_of_mem_of_not_mem hc h]

@[simp]
theorem withSlashes_withSlashes (s : String) : withSlashes (withSlashes s) = withSlashes s := by
  apply String.toList_injective
  rw [toList_withSlashes, toList_withSlashes, List.map_map]
  exact List.map_congr_left fun c _ => written_written c

theorem withSlashes_append (s s' : String) :
    withSlashes (s ++ s') = withSlashes s ++ withSlashes s' := by
  apply String.toList_injective
  simp [toList_withSlashes]

/-- Blanks are removed in the same way before slashes are written and after. -/
theorem trim_withSlashes (s : String) :
    Text.trim (withSlashes s) = withSlashes (Text.trim s) := by
  apply String.toList_injective
  rw [Text.trim, Text.trim, String.toList_ofList, toList_withSlashes, toList_withSlashes,
    String.toList_ofList, Text.trimChars_map isBlank_written]

theorem isAllBlank_withSlashes (s : String) :
    Text.isAllBlank (withSlashes s) = Text.isAllBlank s := by
  rw [Text.isAllBlank, Text.isAllBlank, toList_withSlashes, List.all_map]
  exact congrArg _ (funext isBlank_written)

/-- A path that is declared with slashes stands for the same place. -/
theorem resolve_withSlashes (root : Path) (s : String) :
    resolve root (withSlashes s) = resolve root s := by
  rw [resolve, resolve, trim_withSlashes, withSlashes_withSlashes]

/-- A path that is declared as it was read stands for the same place. -/
theorem resolve_withSlashes_trim (root : Path) (s : String) :
    resolve root (withSlashes (Text.trim s)) = resolve root s := by
  have htrim : Text.trim (Text.trim s) = Text.trim s := by
    rw [Text.trim, Text.trim, String.toList_ofList, Text.trimChars_trimChars]
  rw [resolve_withSlashes, resolve, resolve, htrim]

/-- Names between slashes stand for the place below the root that they make. -/
theorem resolve_eq_below {s : String} (hroot : ".." ∉ root.names)
    (hs : withSlashes (Text.trim s) = "/".intercalate names) (hname : ∀ n ∈ names, Path.IsName n)
    (hup : ".." ∉ names) (hne : names ≠ []) : resolve root s = below root names := by
  have hchild : root.child ("/".intercalate names) = below root names := by
    rw [Path.child, Path.ofString_intercalate hname hne]
    rfl
  rw [resolve, hs, hchild, normalize_below hroot hup]

section Relative

/-- What a name is taken apart into: its parts between backslashes, without the empty ones. -/
def parts (name : String) : List String :=
  ((Text.split (fun c => c == '\\') name.toList).map String.ofList).filter fun n => n != ""

/-- A name without a backslash is not taken apart. -/
theorem parts_of_notMem (hempty : name ≠ "") (h : '\\' ∉ name.toList) : parts name = [name] := by
  have hsep : ∀ c ∈ name.toList, (c == '\\') = false := by
    intro c hc
    rw [beq_eq_false_iff_ne]
    rintro rfl
    exact h hc
  rw [parts, Text.split, Text.splitFrom_of_forall hsep]
  simp [hempty]

/-- A name that is written and read again is taken apart. -/
theorem segments_eq_parts (h : '/' ∉ name.toList) : segments name = parts name := by
  have hsplit : Text.split (fun c => c == '/') (name.toList.map written) =
      Text.split (fun c => c == '\\') name.toList := by
    refine Text.splitFrom_map (fun c hc => ?_) fun c _ hc => ?_
    · -- a slash is written for backslashes alone
      have hslash : c ≠ '/' := fun heq => h (heq ▸ hc)
      by_cases hback : c = '\\'
      · rw [hback]
        rfl
      · simp [written, hback, hslash]
    · simp [written, beq_eq_false_iff_ne.mp hc]
  rw [segments, Path.splitSlashes, toList_withSlashes, hsplit]
  rfl

/-- The names of a row that is written with slashes are those of its members. -/
theorem segments_intercalate (names : List String) :
    segments ("/".intercalate names) = names.flatMap segments := by
  have hslash : withSlashes "/" = "/" := by decide
  -- the last name is not followed by a slash, so two names are looked at in each step
  induction names with
  | nil => decide
  | cons n names ih =>
    cases names with
    | nil => rw [String.intercalate_singleton, List.flatMap_singleton]
    | cons m names =>
      rw [List.flatMap_cons, ← ih, String.intercalate_cons_cons]
      unfold segments
      rw [withSlashes_append, withSlashes_append, hslash, Path.splitSlashes_append,
        List.filter_append]

/-- Names have themselves in common with the names of a path below. -/
theorem commonLength_append (as bs : List String) :
    Path.commonLength as (as ++ bs) = as.length := by
  induction as with
  | nil => cases bs <;> rfl
  | cons a as ih =>
    rw [List.cons_append, Path.commonLength, ih, beq_self_eq_true, if_pos rfl, List.length_cons]

/-- Seen from the root, a path below it is shown as its names between slashes. -/
theorem relativeText_below (hroot : ".." ∉ root.names) (hup : ".." ∉ names) (hne : names ≠ []) :
    root.relativeText (below root names) = "/".intercalate names := by
  have hnormal : root.normalize.names = root.names := Path.normalNames_of_notMem hroot
  have hcommon : Path.commonLength root.names (root.names ++ names) = root.names.length :=
    commonLength_append root.names names
  rw [Path.relativeText, normalize_below hroot hup, hnormal]
  simp [below, hcommon, hne]

/-- The names of a path below the root that is shown and read again are the parts of its names. -/
theorem segments_relative (hroot : ".." ∉ root.names) (hname : ∀ n ∈ names, Path.IsName n)
    (hup : ".." ∉ names) (hne : names ≠ []) :
    segments (relative root (below root names)) = names.flatMap parts := by
  have hwritten : segments (relative root (below root names)) =
      segments ("/".intercalate names) := by
    rw [relative, segments, withSlashes_withSlashes, relativeText_below hroot hup hne]
    rfl
  rw [hwritten, segments_intercalate]
  exact List.flatMap_congr fun n hn => segments_eq_parts (hname n hn).2.2

end Relative

end Declared

end AgentPackage
