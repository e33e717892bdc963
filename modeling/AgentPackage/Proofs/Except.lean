import Mathlib.Data.List.Forall2

/-!
# Steps that may fail

When a computation made of steps that may fail succeeds, and with what.

## Main definitions

* `Except.Ensures`: what a computation gives and what ends it have given properties.

## Main results

* `bind_eq_ok`: two steps, one after the other;
* `mapM_eq_ok`: one step for each of some values;
* `filterM_eq_ok`: a test of each of some values;
* `findM?_eq_find?`, `exists_findM?`: the first of some values that passes a test;
* `findM?_eq_some_iff`, `findM?_eq_none_iff`, `findM?_eq_error_iff`: what a search comes to.
-/

/-- A value on the right of two related lists is related to one on the left. -/
theorem List.Forall₂.exists_of_mem_right {α β : Type} {R : α → β → Prop} {xs : List α}
    {ys : List β} (h : List.Forall₂ R xs ys) {y : β} (hy : y ∈ ys) : ∃ x ∈ xs, R x y := by
  induction h with
  | nil => cases hy
  | cons hxy _ ih =>
    rcases List.mem_cons.mp hy with rfl | hy
    · exact ⟨_, List.mem_cons_self, hxy⟩
    · obtain ⟨x, hx, hR⟩ := ih hy
      exact ⟨x, List.mem_cons_of_mem _ hx, hR⟩

/-- A relation between the values of a list carries over to those that are related to them. -/
theorem List.Forall₂.pairwise {α β : Type} {R : α → β → Prop} {S : β → β → Prop} {xs : List α}
    {ys : List β} (h : List.Forall₂ R xs ys)
    (hxs : xs.Pairwise fun x x' => ∀ y y', R x y → R x' y' → S y y') : ys.Pairwise S := by
  induction h with
  | nil => exact .nil
  | cons hxy hrest ih =>
    rw [List.pairwise_cons] at hxs
    refine .cons (fun y' hy' => ?_) (ih hxs.2)
    obtain ⟨x', hx', hR⟩ := hrest.exists_of_mem_right hy'
    exact hxs.1 x' hx' _ _ hxy hR

/-- Related lists have the same values of functions that agree on related values. -/
theorem List.Forall₂.map_eq {α β γ : Type} {R : α → β → Prop} {f : α → γ} {g : β → γ} {xs : List α}
    {ys : List β} (hR : List.Forall₂ R xs ys) (h : ∀ x y, R x y → g y = f x) :
    ys.map g = xs.map f := by
  induction hR with
  | nil => rfl
  | cons hxy _ ih => rw [List.map_cons, List.map_cons, h _ _ hxy, ih]

/-- A list of related values can be put together from one related value for each. -/
theorem List.exists_forall₂ {α β : Type} {R : α → β → Prop} {xs : List α}
    (h : ∀ x ∈ xs, ∃ y, R x y) : ∃ ys, List.Forall₂ R xs ys := by
  induction xs with
  | nil => exact ⟨[], .nil⟩
  | cons x xs ih =>
    rw [List.forall_mem_cons] at h
    obtain ⟨y, hy⟩ := h.1
    obtain ⟨ys, hys⟩ := ih h.2
    exact ⟨y :: ys, .cons hy hys⟩

/-- Where one value of a list without duplicates gives something, and the others give nothing, the
list gives what that value gives. -/
theorem List.flatMap_eq_of_nodup {α β : Type} {xs : List α} {g : α → List β} (hnodup : xs.Nodup)
    {x : α} (hx : x ∈ xs) (hg : ∀ y ∈ xs, y ≠ x → g y = []) : xs.flatMap g = g x := by
  obtain ⟨before, after, rfl⟩ := List.append_of_mem hx
  have hnotMem : x ∉ before ∧ x ∉ after := by
    rw [List.nodup_append, List.nodup_cons] at hnodup
    exact ⟨fun hx => hnodup.2.2 x hx x List.mem_cons_self rfl, hnodup.2.1.1⟩
  have hbefore : before.flatMap g = [] := List.flatMap_eq_nil_iff.mpr fun y hy =>
    hg y (List.mem_append_left _ hy) fun heq => hnotMem.1 (heq ▸ hy)
  have hafter : after.flatMap g = [] := List.flatMap_eq_nil_iff.mpr fun y hy =>
    hg y (List.mem_append_right _ (List.mem_cons_of_mem x hy)) fun heq => hnotMem.2 (heq ▸ hy)
  rw [List.flatMap_append, List.flatMap_cons, hbefore, hafter, List.nil_append, List.append_nil]

namespace Except

variable {ε α β : Type}

/-- Two steps succeed together when the second succeeds with what the first gave. -/
theorem bind_eq_ok {x : Except ε α} {f : α → Except ε β} {b : β} :
    (x >>= f) = .ok b ↔ ∃ a, x = .ok a ∧ f a = .ok b := by
  cases x with
  | ok a => simp [bind, Except.bind]
  | error e => simp [bind, Except.bind]

/-- Two steps fail together when the first fails, or the second does with what the first gave. -/
theorem bind_eq_error {x : Except ε α} {f : α → Except ε β} {e : ε} :
    (x >>= f) = .error e ↔ x = .error e ∨ ∃ a, x = .ok a ∧ f a = .error e := by
  cases x with
  | ok a => simp [bind, Except.bind]
  | error e => simp [bind, Except.bind]

/-- Giving back a value succeeds with it. -/
theorem pure_eq_ok {a b : α} : (pure a : Except ε α) = .ok b ↔ a = b := by
  simp [pure, Except.pure]

/-- A step for each of some values succeeds when it does for each of them. -/
theorem mapM_eq_ok {f : α → Except ε β} {xs : List α} {ys : List β} :
    xs.mapM f = .ok ys ↔ List.Forall₂ (fun x y => f x = .ok y) xs ys := by
  induction xs generalizing ys with
  | nil => rw [List.mapM_nil, pure_eq_ok, List.forall₂_nil_left_iff, eq_comm]
  | cons x xs ih =>
    rw [List.mapM_cons, List.forall₂_cons_left_iff]
    simp only [bind_eq_ok, pure_eq_ok, ih]
    -- both sides split into the first step and the steps for the rest
    constructor
    · rintro ⟨y, hy, ys', hys, rfl⟩
      exact ⟨y, ys', hy, hys, rfl⟩
    · rintro ⟨y, ys', hy, hys, rfl⟩
      exact ⟨y, hy, ys', hys, rfl⟩

/-- What a step for each of some values gave holds the result for each of them. -/
theorem exists_of_mapM_eq_ok {f : α → Except ε β} {xs : List α} {ys : List β}
    (h : xs.mapM f = .ok ys) {x : α} (hx : x ∈ xs) : ∃ y ∈ ys, f x = .ok y :=
  (mapM_eq_ok.mp h).flip.exists_of_mem_right hx

/-- Filtering gathers backwards, in front of what is there, the values that pass the test. -/
theorem filterAuxM_eq_ok {test : α → Except ε Bool} {xs acc zs : List α}
    (h : List.filterAuxM test xs acc = .ok zs) :
    ∃ kept : List α, zs = kept.reverse ++ acc ∧ kept.Sublist xs ∧
      (∀ x, x ∈ kept ↔ x ∈ xs ∧ test x = .ok true) ∧ ∀ x ∈ xs, ∃ b, test x = .ok b := by
  induction xs generalizing acc with
  | nil =>
    obtain rfl := pure_eq_ok.mp h
    exact ⟨[], rfl, .slnil, by simp⟩
  | cons x xs ih =>
    obtain ⟨b, hb, h⟩ := bind_eq_ok.mp h
    obtain ⟨kept, rfl, hsub, hmem, htest⟩ := ih h
    have htests := List.forall_mem_cons.mpr ⟨⟨b, hb⟩, htest⟩
    cases b with
    | true =>
      refine ⟨x :: kept, by simp, hsub.cons_cons x, fun y => ?_, htests⟩
      rw [List.mem_cons, List.mem_cons, hmem]
      constructor
      · rintro (rfl | ⟨hy, htest⟩)
        · exact ⟨.inl rfl, hb⟩
        · exact ⟨.inr hy, htest⟩
      · rintro ⟨rfl | hy, htest⟩
        · exact .inl rfl
        · exact .inr ⟨hy, htest⟩
    | false =>
      refine ⟨kept, rfl, hsub.cons x, fun y => ?_, htests⟩
      rw [List.mem_cons, hmem]
      constructor
      · exact fun ⟨hy, htest⟩ => ⟨.inr hy, htest⟩
      · rintro ⟨rfl | hy, htest⟩
        · cases hb.symm.trans htest
        · exact ⟨hy, htest⟩

/-- Filtering by a test succeeds when the test does for every value, and keeps those that pass. -/
theorem filterM_eq_ok {test : α → Except ε Bool} {xs ys : List α} (h : xs.filterM test = .ok ys) :
    ys.Sublist xs ∧ (∀ x, x ∈ ys ↔ x ∈ xs ∧ test x = .ok true) ∧ ∀ x ∈ xs, ∃ b, test x = .ok b := by
  obtain ⟨zs, hzs, h⟩ := bind_eq_ok.mp h
  obtain rfl := pure_eq_ok.mp h
  obtain ⟨kept, rfl, hkept⟩ := filterAuxM_eq_ok hzs
  rw [List.append_nil, List.reverse_reverse]
  exact hkept

/-- Two steps succeed if the first does, and the second does with what the first gave. -/
theorem exists_bind {x : Except ε α} {f : α → Except ε β} (hx : ∃ a, x = .ok a)
    (hf : ∀ a, x = .ok a → ∃ b, f a = .ok b) : ∃ b, (x >>= f) = .ok b := by
  obtain ⟨a, ha⟩ := hx
  obtain ⟨b, hb⟩ := hf a ha
  exact ⟨b, bind_eq_ok.mpr ⟨a, ha, hb⟩⟩

/-- A step for each of some values succeeds if it does for each of them. -/
theorem exists_mapM {f : α → Except ε β} {xs : List α} (h : ∀ x ∈ xs, ∃ y, f x = .ok y) :
    ∃ ys, xs.mapM f = .ok ys := by
  obtain ⟨ys, hys⟩ := List.exists_forall₂ h
  exact ⟨ys, mapM_eq_ok.mpr hys⟩

/-- Filtering succeeds if the test does for every value. -/
theorem exists_filterM {test : α → Except ε Bool} {xs : List α}
    (h : ∀ x ∈ xs, ∃ b, test x = .ok b) : ∃ ys, xs.filterM test = .ok ys := by
  have haux : ∀ acc, ∃ zs, List.filterAuxM test xs acc = .ok zs := by
    induction xs with
    | nil => exact fun acc => ⟨acc, rfl⟩
    | cons x xs ih =>
      intro acc
      obtain ⟨hx, hxs⟩ := List.forall_mem_cons.mp h
      exact exists_bind hx fun b _ => ih hxs _
  exact exists_bind (haux []) fun zs _ => ⟨_, rfl⟩

/-- A search by a test that succeeds for every value ends with an answer. -/
theorem exists_findM? {test : α → Except ε Bool} {xs : List α}
    (h : ∀ x ∈ xs, ∃ b, test x = .ok b) : ∃ found, xs.findM? test = .ok found := by
  induction xs with
  | nil => exact ⟨none, rfl⟩
  | cons x xs ih =>
    obtain ⟨hx, hxs⟩ := List.forall_mem_cons.mp h
    refine exists_bind hx fun b _ => ?_
    cases b with
    | true => exact ⟨some x, rfl⟩
    | false => exact ih hxs

/-- A search by a test that succeeds for every value is a search by its results. -/
theorem findM?_eq_find? {test : α → Except ε Bool} {p : α → Bool} {xs : List α}
    (h : ∀ x ∈ xs, test x = .ok (p x)) : xs.findM? test = .ok (xs.find? p) := by
  induction xs with
  | nil => rfl
  | cons x xs ih =>
    obtain ⟨hx, hxs⟩ := List.forall_mem_cons.mp h
    rw [List.findM?, hx, List.find?_cons]
    cases p x with
    | true => rfl
    | false => exact ih hxs

/-- A search in one list and then in another goes on with the second where the first has nothing. -/
theorem findM?_append {test : α → Except ε Bool} (xs ys : List α) :
    (xs ++ ys).findM? test =
      (xs.findM? test >>= fun found => found.elim (ys.findM? test) fun x => .ok (some x)) := by
  induction xs with
  | nil => rfl
  | cons x xs ih =>
    rw [List.cons_append, List.findM?, List.findM?, ih]
    cases test x with
    | error e => rfl
    | ok b => cases b <;> rfl

/-- A search that is made twice finds what it finds once. -/
theorem findM?_append_self (test : α → Except ε Bool) (xs : List α) :
    (xs ++ xs).findM? test = xs.findM? test := by
  rw [findM?_append]
  cases xs.findM? test with
  | error e => rfl
  | ok found => cases found <;> rfl

/-- A search goes on behind values that fail the test. -/
theorem findM?_append_of_forall {test : α → Except ε Bool} {xs : List α}
    (h : ∀ x ∈ xs, test x = .ok false) (ys : List α) :
    (xs ++ ys).findM? test = ys.findM? test := by
  have hnone : xs.find? (fun _ => false) = none := List.find?_eq_none.mpr (by simp)
  rw [findM?_append, findM?_eq_find? h, hnone]
  rfl

/-- A search that is over met only values that fail the test, and then perhaps one that passes it or
for which it fails to answer. -/
theorem findM?_cases (test : α → Except ε Bool) (xs : List α) :
    ((∀ x ∈ xs, test x = .ok false) ∧ xs.findM? test = .ok none) ∨
      ∃ before x after, xs = before ++ x :: after ∧ (∀ y ∈ before, test y = .ok false) ∧
        ((test x = .ok true ∧ xs.findM? test = .ok (some x)) ∨
          ∃ e, test x = .error e ∧ xs.findM? test = .error e) := by
  induction xs with
  | nil => exact .inl ⟨List.forall_mem_nil _, rfl⟩
  | cons x xs ih =>
    rw [List.findM?]
    cases hx : test x with
    | error e => exact .inr ⟨[], x, xs, rfl, List.forall_mem_nil _, .inr ⟨e, hx, rfl⟩⟩
    | ok b =>
      cases b with
      | true => exact .inr ⟨[], x, xs, rfl, List.forall_mem_nil _, .inl ⟨hx, rfl⟩⟩
      | false =>
        -- the search goes on behind the first value
        rcases ih with ⟨hall, hnone⟩ | ⟨before, y, after, rfl, hbefore, h⟩
        · exact .inl ⟨List.forall_mem_cons.mpr ⟨hx, hall⟩, hnone⟩
        · exact .inr ⟨x :: before, y, after, rfl, List.forall_mem_cons.mpr ⟨hx, hbefore⟩, h⟩

/-- A search finds the first value that passes the test. -/
theorem findM?_eq_some_iff {test : α → Except ε Bool} {xs : List α} {x : α} :
    xs.findM? test = .ok (some x) ↔
      ∃ before after, xs = before ++ x :: after ∧ (∀ y ∈ before, test y = .ok false) ∧
        test x = .ok true := by
  constructor
  · intro h
    rcases findM?_cases test xs with ⟨-, hnone⟩ | ⟨before, y, after, hxs, hbefore, hy⟩
    · cases h.symm.trans hnone
    · rcases hy with ⟨hy, hfound⟩ | ⟨e, -, herror⟩
      · cases h.symm.trans hfound
        exact ⟨before, after, hxs, hbefore, hy⟩
      · cases h.symm.trans herror
  · rintro ⟨before, after, rfl, hbefore, hx⟩
    rw [findM?_append_of_forall hbefore, List.findM?, hx]
    rfl

/-- A search finds nothing if all values fail the test. -/
theorem findM?_eq_none_iff {test : α → Except ε Bool} {xs : List α} :
    xs.findM? test = .ok none ↔ ∀ x ∈ xs, test x = .ok false := by
  constructor
  · intro h
    rcases findM?_cases test xs with ⟨hall, -⟩ | ⟨before, y, after, -, -, hy⟩
    · exact hall
    · rcases hy with ⟨-, hfound⟩ | ⟨e, -, herror⟩
      · cases h.symm.trans hfound
      · cases h.symm.trans herror
  · intro h
    have hsearch := findM?_append_of_forall h []
    rwa [List.append_nil] at hsearch

/-- A search fails where the test does not answer, behind values that fail it. -/
theorem findM?_eq_error_iff {test : α → Except ε Bool} {xs : List α} {e : ε} :
    xs.findM? test = .error e ↔
      ∃ before x after, xs = before ++ x :: after ∧ (∀ y ∈ before, test y = .ok false) ∧
        test x = .error e := by
  constructor
  · intro h
    rcases findM?_cases test xs with ⟨-, hnone⟩ | ⟨before, y, after, hxs, hbefore, hy⟩
    · cases h.symm.trans hnone
    · rcases hy with ⟨-, hfound⟩ | ⟨e', hy, herror⟩
      · cases h.symm.trans hfound
      · cases h.symm.trans herror
        exact ⟨before, y, after, hxs, hbefore, hy⟩
  · rintro ⟨before, x, after, rfl, hbefore, hx⟩
    rw [findM?_append_of_forall hbefore, List.findM?, hx]
    rfl

/-- What a search finds is one of the values. -/
theorem mem_of_findM?_eq_ok {test : α → Except ε Bool} {xs : List α} {x : α}
    (h : xs.findM? test = .ok (some x)) : x ∈ xs := by
  obtain ⟨before, after, rfl, -⟩ := findM?_eq_some_iff.mp h
  exact List.mem_append_cons_self

section Ensures

/-- What a computation gives satisfies `P`, and what ends it satisfies `Q`. -/
def Ensures (P : α → Prop) (Q : ε → Prop) : Except ε α → Prop
  | .ok a => P a
  | .error e => Q e

variable {P : α → Prop} {Q : ε → Prop} {R : β → Prop}

namespace Ensures

/-- What ends a computation has the property. -/
theorem of_error {x : Except ε α} (h : Ensures P Q x) {e : ε} (hx : x = .error e) : Q e := by
  rw [hx] at h
  exact h

/-- What a computation gives has the property. -/
theorem of_ok {x : Except ε α} (h : Ensures P Q x) {a : α} (hx : x = .ok a) : P a := by
  rw [hx] at h
  exact h

theorem imp {P' : α → Prop} {Q' : ε → Prop} {x : Except ε α} (h : Ensures P' Q' x)
    (hP : ∀ a, P' a → P a) (hQ : ∀ e, Q' e → Q e) : Ensures P Q x := by
  cases x with
  | ok a => exact hP a h
  | error e => exact hQ e h

theorem mono {P' : α → Prop} {x : Except ε α} (h : Ensures P' Q x) (hP : ∀ a, P' a → P a) :
    Ensures P Q x :=
  h.imp hP fun _ he => he

/-- The second of two steps starts with what the first gave. -/
theorem bind {x : Except ε α} {f : α → Except ε β} (hx : Ensures P Q x)
    (hf : ∀ a, P a → Ensures R Q (f a)) : Ensures R Q (x >>= f) := by
  cases x with
  | ok a => exact hf a hx
  | error e => exact hx

theorem ite_of {c : Prop} [Decidable c] {x y : Except ε α} (hx : c → Ensures P Q x)
    (hy : ¬ c → Ensures P Q y) : Ensures P Q (if c then x else y) := by
  split
  · exact hx ‹_›
  · exact hy ‹_›

theorem ite {c : Prop} [Decidable c] {x y : Except ε α} (hx : Ensures P Q x) (hy : Ensures P Q y) :
    Ensures P Q (if c then x else y) :=
  ite_of (fun _ => hx) fun _ => hy

/-- A step for each of some values keeps a property that it does not end. -/
theorem foldlM {f : α → β → Except ε α} {ys : List β} {a : α} (ha : P a)
    (hf : ∀ a, P a → ∀ y ∈ ys, Ensures P Q (f a y)) : Ensures P Q (ys.foldlM f a) := by
  induction ys generalizing a with
  | nil => exact ha
  | cons y ys ih =>
    exact (hf a ha y List.mem_cons_self).bind fun a' ha' =>
      ih ha' fun a'' ha'' y' hy' => hf a'' ha'' y' (List.mem_cons_of_mem _ hy')

end Ensures

end Ensures

/-- It can be decided whether a result is a given one, whatever the failures are. -/
instance decidableEqOk [DecidableEq α] (x : Except ε α) (a : α) : Decidable (x = .ok a) :=
  match x with
  | .ok b => decidable_of_iff (b = a) (Except.ok.injEq b a).symm.to_iff
  | .error _ => isFalse fun h => (nomatch h)

/-- It can be decided whether a failure is a given one, whatever the results are. -/
instance decidableEqError [DecidableEq ε] (x : Except ε α) (e : ε) : Decidable (x = .error e) :=
  match x with
  | .ok _ => isFalse fun h => (nomatch h)
  | .error e' => decidable_of_iff (e' = e) (Except.error.injEq e' e).symm.to_iff

/-- It can be decided whether there is a result. -/
instance decidableExistsOk (x : Except ε α) : Decidable (∃ a, x = .ok a) :=
  match x with
  | .ok a => isTrue ⟨a, rfl⟩
  | .error _ => isFalse fun ⟨_, h⟩ => (nomatch h)

/-- It can be decided whether there is a result with a property that can be decided. -/
instance decidableExistsOkAnd (x : Except ε α) (P : α → Prop) [DecidablePred P] :
    Decidable (∃ a, x = .ok a ∧ P a) :=
  match x with
  | .ok a => decidable_of_iff (P a) ⟨fun h => ⟨a, rfl, h⟩, fun ⟨_, h, hP⟩ => Except.ok.inj h ▸ hP⟩
  | .error _ => isFalse fun ⟨_, h, _⟩ => (nomatch h)

end Except
