import AgentPackage.Text.IgnoreCase
import AgentPackage.Text.Lines
import Mathlib.Data.List.Forall2
import Mathlib.Data.List.Infix

/-!
# Words in texts

A word that is looked for is found exactly in the texts that hold it somewhere, as it is or, case
being ignored, in one of its spellings.

## Main definitions

* `Text.Spells`: a text is a word, case being ignored.

## Main results

* `Text.dropWord?_eq_some`: a word is dropped from the texts that start with it;
* `Text.occursIn_iff`, `Text.occursIgnoringCase_iff`: a word is found where it is.
-/

namespace AgentPackage.Text

variable {word cs : List Char}

/-- A text is `word`, case being ignored. -/
def Spells (word cs : List Char) : Prop :=
  List.Forall₂ (fun letter c => sameLetter letter c = true) word cs

/-- A word is dropped from the texts that start with it, case being ignored. -/
theorem dropWord?_eq_some {rest : List Char} :
    dropWord? word cs = some rest ↔ ∃ spelled, cs = spelled ++ rest ∧ Spells word spelled := by
  induction word generalizing cs with
  | nil =>
    simp only [dropWord?, Option.some.injEq, Spells, List.forall₂_nil_left_iff]
    constructor
    · rintro rfl
      exact ⟨[], rfl, rfl⟩
    · rintro ⟨_, rfl, rfl⟩
      rfl
  | cons letter word ih =>
    cases cs with
    | nil =>
      simp only [dropWord?, reduceCtorEq, false_iff]
      rintro ⟨spelled, hcs, hspelled⟩
      cases hspelled
      cases hcs
    | cons c cs =>
      rw [dropWord?]
      constructor
      · intro h
        split at h
        · rename_i hsame
          obtain ⟨spelled, rfl, hspelled⟩ := ih.mp h
          exact ⟨c :: spelled, rfl, .cons hsame hspelled⟩
        · cases h
      · rintro ⟨spelled, hcs, hspelled⟩
        cases hspelled with
        | cons hsame hspelled =>
          cases hcs
          rw [if_pos hsame]
          exact ih.mpr ⟨_, rfl, hspelled⟩

/-- A word is found in the texts that hold it. -/
theorem occursIn_iff : occursIn word cs = true ↔ word <:+: cs := by
  induction cs with
  | nil => rw [occursIn, List.isEmpty_iff, List.infix_nil]
  | cons c cs ih =>
    rw [occursIn, Bool.or_eq_true, ih, List.isPrefixOf_iff_prefix, List.infix_cons_iff]

/-- Case being ignored, a word is found in the texts that hold a spelling of it. -/
theorem occursIgnoringCase_iff :
    occursIgnoringCase word cs = true ↔ ∃ spelled, spelled <:+: cs ∧ Spells word spelled := by
  -- at a place of the text the word is found if a spelling starts there
  have hstart : ∀ cs, (dropWord? word cs).isSome = true ↔
      ∃ spelled, spelled <+: cs ∧ Spells word spelled := by
    intro cs
    simp only [Option.isSome_iff_exists, dropWord?_eq_some]
    constructor
    · rintro ⟨rest, spelled, rfl, hspelled⟩
      exact ⟨spelled, List.prefix_append _ _, hspelled⟩
    · rintro ⟨spelled, ⟨rest, rfl⟩, hspelled⟩
      exact ⟨rest, spelled, rfl, hspelled⟩
  induction cs with
  | nil =>
    rw [occursIgnoringCase, List.isEmpty_iff]
    constructor
    · rintro rfl
      exact ⟨[], List.infix_rfl, .nil⟩
    · rintro ⟨spelled, hspelled, hword⟩
      cases List.infix_nil.mp hspelled
      exact List.forall₂_nil_right_iff.mp hword
  | cons c cs ih =>
    simp only [occursIgnoringCase, Bool.or_eq_true, hstart, ih, List.infix_cons_iff, or_and_right,
      exists_or]

end AgentPackage.Text
