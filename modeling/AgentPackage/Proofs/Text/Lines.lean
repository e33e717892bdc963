import AgentPackage.Text.Lines

/-!
# Lines of texts

The lines of two texts with a line feed between them are the lines of the one and then those of the
other, up to a carriage return that ends the first text: it is part of the break between the two.
Lines are counted from one, and a line that is looked for is the first one that passes a test.

## Main definitions

* `Text.IsLineNumber`: the numbers of the lines of a text.

## Main results

* `Text.lines_append_newline`: the lines of two texts that are joined by a line feed;
* `Text.exists_linesFrom_concat_return`: a carriage return at the end of a text ends its last line;
* `Text.firstLine_eq_some_iff`, `Text.firstLine_eq_none_iff`: which line is the first of its kind.
-/

namespace AgentPackage.Text

variable {c : Char} {line cs a b : List Char}

/-- The number is that of a line of a text, counted from one. -/
def IsLineNumber (cs : List Char) (n : Nat) : Prop :=
  1 ≤ n ∧ n ≤ (lines cs).length

/-- A character is part of its line unless it starts a break. -/
theorem linesFrom_cons (hfeed : c ≠ '\n') (hreturn : c = '\r' → cs.head? ≠ some '\n') :
    linesFrom line (c :: cs) = linesFrom (c :: line) cs := by
  rw [linesFrom]
  · rintro rest rfl rfl
    exact hreturn rfl rfl
  · exact hfeed

/-- A carriage return and a line feed behind a text end its last line. -/
theorem linesFrom_append_return :
    linesFrom line (a ++ '\r' :: '\n' :: b) = linesFrom line a ++ lines b := by
  fun_induction linesFrom line a with
  | case1 line => rfl
  | case2 line cs ih | case3 line cs ih =>
    simp only [List.cons_append, linesFrom, ih]
  | case4 line c cs hreturn hfeed ih =>
    rw [List.cons_append, linesFrom_cons hfeed, ih]
    rintro rfl hhead
    cases cs with
    | nil => cases hhead
    | cons d cs => exact hreturn cs rfl (by simpa using hhead)

/-- A line feed behind a text that ends in no carriage return ends its last line. -/
theorem linesFrom_append_newline (h : a.getLast? ≠ some '\r') :
    linesFrom line (a ++ '\n' :: b) = linesFrom line a ++ lines b := by
  fun_induction linesFrom line a with
  | case1 line => rfl
  | case2 line cs ih | case3 line cs ih =>
    -- what stands behind a break ends in no carriage return either
    simp only [List.cons_append, linesFrom]
    rw [ih]
    cases cs with
    | nil => simp
    | cons d cs => simpa using h
  | case4 line c cs hreturn hfeed ih =>
    rw [List.cons_append, linesFrom_cons hfeed, ih]
    · cases cs with
      | nil => simp
      | cons d cs => simpa using h
    · -- a carriage return in front of the new line feed would end the text
      rintro rfl hhead
      cases cs with
      | nil => exact h rfl
      | cons d cs => exact hreturn cs rfl (by simpa using hhead)

/-- A carriage return at the end of a text stands at the end of its last line. -/
theorem exists_linesFrom_concat_return (line a : List Char) :
    ∃ front last, linesFrom line a = front ++ [last] ∧
      linesFrom line (a ++ ['\r']) = front ++ [last ++ ['\r']] := by
  fun_induction linesFrom line a with
  | case1 line => exact ⟨[], line.reverse, rfl, by simp [linesFrom]⟩
  | case2 line cs ih | case3 line cs ih =>
    obtain ⟨front, last, hlines, hreturn⟩ := ih
    exact ⟨line.reverse :: front, last, by simp [hlines], by simp [linesFrom, hreturn]⟩
  | case4 line c cs hreturn hfeed ih =>
    obtain ⟨front, last, hlines, hlast⟩ := ih
    refine ⟨front, last, hlines, ?_⟩
    rw [List.cons_append, linesFrom_cons hfeed, hlast]
    rintro rfl hhead
    cases cs with
    | nil => cases hhead
    | cons d cs => exact hreturn cs rfl (by simpa using hhead)

/-- The lines of two texts that are joined by a line feed. A carriage return at the end of the first
text belongs to the break. -/
theorem lines_append_newline (a b : List Char) :
    ∃ front, (a = front ∨ a = front ++ ['\r']) ∧
      lines (a ++ '\n' :: b) = lines front ++ lines b := by
  by_cases h : a.getLast? = some '\r'
  · obtain ⟨front, rfl⟩ := List.getLast?_eq_some_iff.mp h
    refine ⟨front, .inr rfl, ?_⟩
    rw [List.append_assoc]
    exact linesFrom_append_return
  · exact ⟨a, .inl rfl, linesFrom_append_newline h⟩

section FirstLine

variable {p : List Char → Bool} {k n : Nat} {ls : List (List Char)}

/-- The first line that passes a test has lines in front of it that do not. -/
theorem firstLineFrom_eq_some_iff :
    firstLineFrom p k ls = some n ↔ ∃ before l after, ls = before ++ l :: after ∧
      n = before.length + k ∧ p l = true ∧ ∀ l ∈ before, p l = false := by
  induction ls generalizing k with
  | nil => simp [firstLineFrom]
  | cons l ls ih =>
    rw [firstLineFrom]
    constructor
    · intro h
      split at h
      · rename_i hl
        exact ⟨[], l, ls, rfl, by simpa using h.symm, hl, List.forall_mem_nil _⟩
      · rename_i hl
        obtain ⟨before, l', after, rfl, rfl, hl', hbefore⟩ := ih.mp h
        refine ⟨l :: before, l', after, rfl, by rw [List.length_cons]; omega, hl', ?_⟩
        exact List.forall_mem_cons.mpr ⟨Bool.not_eq_true _ ▸ hl, hbefore⟩
    · rintro ⟨before, l', after, hsplit, rfl, hl', hbefore⟩
      cases before with
      | nil =>
        cases hsplit
        rw [if_pos hl']
        simp
      | cons b before =>
        cases hsplit
        obtain ⟨hl, hbefore⟩ := List.forall_mem_cons.mp hbefore
        rw [if_neg (by simp [hl])]
        exact ih.mpr ⟨before, l', after, rfl, by rw [List.length_cons]; omega, hl', hbefore⟩

theorem firstLineFrom_eq_none_iff : firstLineFrom p k ls = none ↔ ∀ l ∈ ls, p l = false := by
  induction ls generalizing k with
  | nil => simp [firstLineFrom]
  | cons l ls ih =>
    rw [firstLineFrom, List.forall_mem_cons]
    split
    · rename_i hl
      simp [hl]
    · rename_i hl
      rw [ih, and_iff_right (Bool.not_eq_true _ ▸ hl)]

/-- The first line of a text that passes a test, counted from one. -/
theorem firstLine_eq_some_iff :
    firstLine p cs = some n ↔ ∃ before l after, lines cs = before ++ l :: after ∧
      n = before.length + 1 ∧ p l = true ∧ ∀ l ∈ before, p l = false :=
  firstLineFrom_eq_some_iff

/-- There is no first line that passes a test if no line does. -/
theorem firstLine_eq_none_iff : firstLine p cs = none ↔ ∀ l ∈ lines cs, p l = false :=
  firstLineFrom_eq_none_iff

/-- The first line that passes a test is one of the lines. -/
theorem isLineNumber_of_firstLine (h : firstLine p cs = some n) : IsLineNumber cs n := by
  obtain ⟨before, l, after, hlines, rfl, -, -⟩ := firstLine_eq_some_iff.mp h
  rw [IsLineNumber, hlines, List.length_append, List.length_cons]
  omega

/-- Every text has a first line. -/
theorem isLineNumber_one (cs : List Char) : IsLineNumber cs 1 :=
  ⟨Nat.le_refl 1, List.length_pos_iff.mpr (lines_ne_nil cs)⟩

end FirstLine

end AgentPackage.Text
