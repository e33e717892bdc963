import AgentPackage.Text.Blank
import Mathlib.Data.List.DropRight

/-!
# Blanks in texts

What trimming leaves and what replacing runs of blanks gives, told by how a text is made up of
blanks and other characters.

## Main definitions

* `Text.RunsReplaced`: a text with one character in the place of each run of blanks.

## Main results

* `Text.runsReplaced_iff`: such a text is what replacing the runs gives;
* `Text.trimChars_trimChars`: trimming leaves nothing to trim;
* `Text.trimChars_map`: trimming does not look at what characters are put for others;
* `Text.trimChars_eq_self_iff`: which texts are trimmed.
-/

namespace AgentPackage.Text

variable {sep c : Char} {cs ds before mid after : List Char}

section Runs

/-- The second text is the first one with `sep` in the place of each run of blanks. A run is as long
as it can be: behind it stands no blank. -/
inductive RunsReplaced (sep : Char) : List Char → List Char → Prop where
  /-- There is nothing to replace in the empty text. -/
  | nil : RunsReplaced sep [] []
  /-- A character that is no blank stays. -/
  | char {c : Char} {cs ds : List Char} (hc : isBlank c = false) (h : RunsReplaced sep cs ds) :
      RunsReplaced sep (c :: cs) (c :: ds)
  /-- A run of blanks becomes one character. -/
  | run {blanks cs ds : List Char} (hne : blanks ≠ []) (hblanks : ∀ c ∈ blanks, isBlank c = true)
      (hend : ∀ c, cs.head? = some c → isBlank c = false) (h : RunsReplaced sep cs ds) :
      RunsReplaced sep (blanks ++ cs) (sep :: ds)

/-- Inside a run blanks are passed over. -/
theorem replaceBlankRuns_append {blanks : List Char} (h : ∀ c ∈ blanks, isBlank c = true) :
    replaceBlankRuns sep true (blanks ++ cs) = replaceBlankRuns sep true cs := by
  induction blanks with
  | nil => rfl
  | cons c blanks ih =>
    rw [List.forall_mem_cons] at h
    rw [List.cons_append, replaceBlankRuns, if_pos h.1, if_pos rfl, ih h.2]

/-- Where no blank follows it does not matter whether there was one before. -/
theorem replaceBlankRuns_of_head (h : ∀ c, cs.head? = some c → isBlank c = false) (inRun : Bool) :
    replaceBlankRuns sep inRun cs = replaceBlankRuns sep false cs := by
  cases cs with
  | nil => simp [replaceBlankRuns]
  | cons c cs => simp [replaceBlankRuns, h c rfl]

theorem RunsReplaced.eq (h : RunsReplaced sep cs ds) : replaceBlankRuns sep false cs = ds := by
  induction h with
  | nil => rfl
  | char hc _ ih => simp [replaceBlankRuns, hc, ih]
  | @run blanks cs ds hne hblanks hend h ih =>
    cases blanks with
    | nil => exact absurd rfl hne
    | cons b blanks =>
      rw [List.forall_mem_cons] at hblanks
      -- the first blank of the run is replaced, the others are passed over
      rw [List.cons_append, replaceBlankRuns, if_pos hblanks.1, if_neg Bool.false_ne_true,
        replaceBlankRuns_append hblanks.2, replaceBlankRuns_of_head hend, ih]

/-- Replacing the runs of a text, and of what is behind the run that a text starts with. -/
theorem runsReplaced_replaceBlankRuns (sep : Char) (cs : List Char) :
    RunsReplaced sep cs (replaceBlankRuns sep false cs) ∧
      ∃ blanks rest, cs = blanks ++ rest ∧ (∀ c ∈ blanks, isBlank c = true) ∧
        (∀ c, rest.head? = some c → isBlank c = false) ∧
        RunsReplaced sep rest (replaceBlankRuns sep true cs) := by
  induction cs with
  | nil => exact ⟨.nil, [], [], rfl, List.forall_mem_nil _, by simp, .nil⟩
  | cons c cs ih =>
    obtain ⟨hwhole, blanks, rest, hcs, hblanks, hend, hrest⟩ := ih
    by_cases hc : isBlank c = true
    · -- a blank is in front of the run that follows, if one does
      have hrun : ∀ b ∈ c :: blanks, isBlank b = true := List.forall_mem_cons.mpr ⟨hc, hblanks⟩
      have hsplit : c :: cs = (c :: blanks) ++ rest := by rw [hcs, List.cons_append]
      refine ⟨?_, c :: blanks, rest, hsplit, hrun, hend, ?_⟩
      · rw [replaceBlankRuns, if_pos hc, if_neg Bool.false_ne_true, hsplit]
        exact .run (List.cons_ne_nil c blanks) hrun hend hrest
      · rwa [replaceBlankRuns, if_pos hc, if_pos rfl]
    · have hkept : ∀ inRun, RunsReplaced sep (c :: cs) (replaceBlankRuns sep inRun (c :: cs)) := by
        intro inRun
        rw [replaceBlankRuns, if_neg hc]
        exact .char (Bool.not_eq_true _ ▸ hc) hwhole
      exact ⟨hkept false, [], c :: cs, rfl, List.forall_mem_nil _, by simpa using hc, hkept true⟩

/-- Replacing the runs of blanks gives the text with one character in the place of each. -/
theorem runsReplaced_iff : RunsReplaced sep cs ds ↔ replaceBlankRuns sep false cs = ds :=
  ⟨RunsReplaced.eq, fun h => h ▸ (runsReplaced_replaceBlankRuns sep cs).1⟩

end Runs

section Trim

theorem trimChars_eq (cs : List Char) :
    trimChars cs = (cs.dropWhile isBlank).rdropWhile isBlank := rfl

/-- The last characters that are dropped leave the first one, if it is no blank. -/
theorem dropWhile_rdropWhile {p : Char → Bool} (h : cs.dropWhile p = cs) :
    (cs.rdropWhile p).dropWhile p = cs.rdropWhile p := by
  rw [List.dropWhile_eq_self_iff] at h ⊢
  intro hlen
  -- what is left is the start of the text
  have hfront := List.rdropWhile_prefix p cs
  rw [hfront.getElem hlen]
  exact h (hlen.trans_le hfront.length_le)

/-- Trimming leaves nothing to trim. -/
@[simp]
theorem trimChars_trimChars (cs : List Char) : trimChars (trimChars cs) = trimChars cs := by
  rw [trimChars_eq (trimChars cs), trimChars_eq cs,
    dropWhile_rdropWhile (List.dropWhile_idempotent isBlank cs), List.rdropWhile_idempotent]

/-- Trimming is not changed by putting characters for others as long as blanks stay blanks. -/
theorem trimChars_map {f : Char → Char} (hf : ∀ c, isBlank (f c) = isBlank c) (cs : List Char) :
    trimChars (cs.map f) = (trimChars cs).map f := by
  have hcomp : isBlank ∘ f = isBlank := funext hf
  rw [trimChars, trimChars, trimLeft, trimLeft, trimRight, trimRight, List.dropWhile_map, hcomp,
    ← List.map_reverse, List.dropWhile_map, hcomp, List.map_reverse]

/-- Blanks in front of a text and behind it are trimmed with its own. -/
theorem trimChars_append (hbefore : ∀ c ∈ before, isBlank c = true)
    (hafter : ∀ c ∈ after, isBlank c = true) :
    trimChars (before ++ cs ++ after) = trimChars cs := by
  have hleft : (before ++ cs ++ after).dropWhile isBlank = (cs ++ after).dropWhile isBlank := by
    rw [List.append_assoc, List.dropWhile_append_of_pos hbefore]
  have hright : ∀ ds : List Char, (ds ++ after).rdropWhile isBlank = ds.rdropWhile isBlank := by
    intro ds
    rw [List.rdropWhile, List.reverse_append, List.dropWhile_append_of_pos]
    · rfl
    · exact fun c hc => hafter c (List.mem_reverse.mp hc)
  rw [trimChars_eq, trimChars_eq, hleft, List.dropWhile_append]
  split
  · -- the text itself holds blanks only
    rename_i hempty
    rw [List.isEmpty_iff.mp hempty, List.dropWhile_eq_nil_iff.mpr hafter]
  · exact hright _

/-- A text is trimmed exactly if it neither starts nor ends with a blank. -/
theorem trimChars_eq_self_iff :
    trimChars cs = cs ↔
      (∀ c, cs.head? = some c → isBlank c = false) ∧
        ∀ c, cs.getLast? = some c → isBlank c = false := by
  have hhead : cs.dropWhile isBlank = cs ↔ ∀ c, cs.head? = some c → isBlank c = false := by
    rw [List.dropWhile_eq_self_iff]
    cases cs <;> simp
  have hlast : cs.rdropWhile isBlank = cs ↔ ∀ c, cs.getLast? = some c → isBlank c = false := by
    rw [List.rdropWhile_eq_self_iff]
    rcases List.eq_nil_or_concat cs with rfl | ⟨front, last, rfl⟩ <;> simp
  rw [← hhead, ← hlast, trimChars_eq]
  constructor
  · intro h
    have hleft : cs.dropWhile isBlank = cs := by
      refine (List.dropWhile_suffix isBlank).eq_of_length_le ?_
      have hfront := (List.rdropWhile_prefix isBlank (cs.dropWhile isBlank)).length_le
      rwa [h] at hfront
    rw [hleft] at h
    exact ⟨hleft, h⟩
  · rintro ⟨hleft, hright⟩
    rw [hleft, hright]

/-- What is put into a trimmed text leaves it trimmed, if it is trimmed itself. -/
theorem trimChars_insert (h : trimChars (before ++ after) = before ++ after) (hne : mid ≠ [])
    (hmid : trimChars mid = mid) :
    trimChars (before ++ mid ++ after) = before ++ mid ++ after := by
  rw [trimChars_eq_self_iff] at h hmid ⊢
  constructor
  · intro c hc
    cases before with
    | nil => exact hmid.1 c (by simpa [List.head?_append, hne] using hc)
    | cons b before => exact h.1 c (by simpa using hc)
  · intro c hc
    rcases List.eq_nil_or_concat after with rfl | ⟨after, b, rfl⟩
    · exact hmid.2 c (by simpa [List.getLast?_append, hne] using hc)
    · exact h.2 c (by simpa using hc)

end Trim

end AgentPackage.Text
