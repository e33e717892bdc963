/-!
# Sorting

Stable insertion sort by a Boolean order. It is structurally recursive, so that the sorted form of
a list that is given outright can be computed.
-/

namespace AgentPackage.Sorting

variable {α : Type}

/-- Puts `x` in front of the first value of an ordered list that does not come before it. -/
def insert (le : α → α → Bool) (x : α) : List α → List α
  | [] => [x]
  | y :: ys => if le x y then x :: y :: ys else y :: insert le x ys

/-- The values of a list in order, those at the same place as they stand. -/
def sort (le : α → α → Bool) : List α → List α
  | [] => []
  | x :: xs => insert le x (sort le xs)

/-- Inserting a value adds it and nothing else. -/
theorem insert_perm (le : α → α → Bool) (x : α) (xs : List α) :
    (insert le x xs).Perm (x :: xs) := by
  induction xs with
  | nil => exact .refl _
  | cons y ys ih =>
    unfold insert
    split
    · exact .refl _
    · exact (ih.cons y).trans (.swap x y ys)

/-- Sorting keeps the values of a list. -/
theorem sort_perm (le : α → α → Bool) (xs : List α) : (sort le xs).Perm xs := by
  induction xs with
  | nil => exact .refl _
  | cons x xs ih => exact (insert_perm le x _).trans (ih.cons x)

end AgentPackage.Sorting
