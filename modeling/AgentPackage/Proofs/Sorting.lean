import AgentPackage.Sorting
import Mathlib

/-!
# Stable sorting

What it means that a list is another one in order, with values of the same key left as they stand,
and that `sort` gives this list and no other.

## Main results

* `isStableSort_sort`: `sort` is a stable sort by every key that its order compares;
* `eq_of_filter_eq`: a list in order is determined by the values it has under each key, so that
  `IsStableSort.unique` leaves one stable sort of a list.
-/

namespace AgentPackage.Sorting

variable {α κ : Type} [LinearOrder κ] {key : α → κ}

/-- `ys` holds the values of `xs` in the order of their keys, and those with the same key as they
stand in `xs`. -/
structure IsStableSort (key : α → κ) (xs ys : List α) : Prop where
  /-- The keys do not decrease. -/
  pairwise : ys.Pairwise fun a b => key a ≤ key b
  /-- No value is added and none is lost. -/
  perm : ys.Perm xs
  /-- The values with a key stand in the order in which they stood. -/
  filter_eq : ∀ k, ys.filter (fun a => decide (key a = k)) = xs.filter (fun a => decide (key a = k))

/-- The head of a list in order comes no later than any value whose key occurs in the list. -/
theorem key_head_le {a : α} {xs : List α} (hxs : (a :: xs).Pairwise fun a b => key a ≤ key b)
    {k : κ} (hk : (a :: xs).filter (fun a => decide (key a = k)) ≠ []) : key a ≤ k := by
  obtain ⟨b, hb⟩ := List.exists_mem_of_ne_nil _ hk
  obtain ⟨hmem, hkey⟩ := List.mem_filter.mp hb
  have hkey : key b = k := by simpa using hkey
  rcases List.mem_cons.mp hmem with rfl | hmem
  · exact hkey.le
  · exact hkey ▸ List.rel_of_pairwise_cons hxs hmem

/-- Two lists in order that agree under every key are the same list. -/
theorem eq_of_filter_eq {xs ys : List α} (hxs : xs.Pairwise fun a b => key a ≤ key b)
    (hys : ys.Pairwise fun a b => key a ≤ key b)
    (h : ∀ k, xs.filter (fun a => decide (key a = k)) = ys.filter (fun a => decide (key a = k))) :
    xs = ys := by
  induction xs generalizing ys with
  | nil =>
    cases ys with
    | nil => rfl
    | cons b ys => simpa using h (key b)
  | cons a xs ih =>
    cases ys with
    | nil => simpa using h (key a)
    | cons b ys =>
      -- each head has a key of the other list, so neither key is below the other
      have hab : key a = key b := by
        apply le_antisymm
        · apply key_head_le hxs
          rw [h (key b)]
          simp
        · apply key_head_le hys
          rw [← h (key a)]
          simp
      have hhead : a = b := by
        have := h (key a)
        simp only [List.filter_cons, hab, decide_true, if_true, List.cons.injEq] at this
        exact this.1
      subst hhead
      have htail : xs = ys := by
        apply ih hxs.tail hys.tail
        intro k
        have := h k
        by_cases hk : key a = k
        · simpa [hk] using this
        · simpa [hk] using this
      rw [htail]

/-- A list has one stable sort. -/
theorem IsStableSort.unique {xs ys zs : List α} (hys : IsStableSort key xs ys)
    (hzs : IsStableSort key xs zs) : ys = zs :=
  eq_of_filter_eq hys.pairwise hzs.pairwise fun k => (hys.filter_eq k).trans (hzs.filter_eq k).symm

section Insertion

variable {le : α → α → Bool} (hle : ∀ a b, le a b = true ↔ key a ≤ key b)

include hle

/-- Inserting a value keeps a list in order. -/
theorem pairwise_insert (x : α) {xs : List α} (hxs : xs.Pairwise fun a b => key a ≤ key b) :
    (insert le x xs).Pairwise fun a b => key a ≤ key b := by
  induction xs with
  | nil => simp [insert]
  | cons y ys ih =>
    unfold insert
    by_cases h : le x y = true
    · rw [if_pos h]
      have hxy : key x ≤ key y := (hle x y).mp h
      refine List.Pairwise.cons (fun b hb => ?_) hxs
      rcases List.mem_cons.mp hb with rfl | hb
      · exact hxy
      · exact le_trans hxy (List.rel_of_pairwise_cons hxs hb)
    · rw [if_neg h]
      have hyx : key y ≤ key x :=
        (le_total (key x) (key y)).resolve_left fun hxy => h ((hle x y).mpr hxy)
      refine List.Pairwise.cons (fun b hb => ?_) (ih hxs.tail)
      rcases List.mem_cons.mp ((insert_perm le x ys).mem_iff.mp hb) with rfl | hb
      · exact hyx
      · exact List.rel_of_pairwise_cons hxs hb

/-- A value is inserted in front of the values with its key, and the values with another key are
not moved. -/
theorem filter_insert (x : α) (xs : List α) (k : κ) :
    (insert le x xs).filter (fun a => decide (key a = k)) =
      (x :: xs).filter (fun a => decide (key a = k)) := by
  induction xs with
  | nil => rfl
  | cons y ys ih =>
    unfold insert
    by_cases h : le x y = true
    · rw [if_pos h]
    · rw [if_neg h, List.filter_cons, ih]
      -- `y` is passed only when its key is below that of `x`
      have hne : ¬ (key x = k ∧ key y = k) := by
        rintro ⟨hx, hy⟩
        exact h ((hle x y).mpr (hx.trans hy.symm).le)
      by_cases hx : key x = k
      · have hy : ¬ key y = k := fun hy => hne ⟨hx, hy⟩
        simp [hx, hy]
      · simp [List.filter_cons, hx]

/-- `sort` gives the stable sort of a list. -/
theorem isStableSort_sort (xs : List α) : IsStableSort key xs (sort le xs) := by
  refine ⟨?_, sort_perm le xs, fun k => ?_⟩
  · induction xs with
    | nil => exact .nil
    | cons x xs ih => exact pairwise_insert hle x ih
  · induction xs with
    | nil => rfl
    | cons x xs ih =>
      rw [sort, filter_insert hle, List.filter_cons, ih, List.filter_cons]

/-- Lists that agree under every key have the same sort. -/
theorem sort_congr {xs ys : List α}
    (h : ∀ k, xs.filter (fun a => decide (key a = k)) = ys.filter (fun a => decide (key a = k))) :
    sort le xs = sort le ys := by
  apply eq_of_filter_eq (isStableSort_sort hle xs).pairwise (isStableSort_sort hle ys).pairwise
  intro k
  rw [(isStableSort_sort hle xs).filter_eq, (isStableSort_sort hle ys).filter_eq, h k]

end Insertion

end AgentPackage.Sorting
