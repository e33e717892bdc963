import AgentPackage.Proofs.Manifest.Rounds

/-!
# Ways to what is dropped

For an error the innermost list element on its location is dropped, or the whole value if there is
none. Of the elements that errors lead to those are dropped inside which no other one lies. What is
dropped of a value depends on these ways alone, and a list loses parts element by element.

## Main definitions

* `Cleaning.way`: the way from a value to what is dropped for an error at a location;
* `Cleaning.waysOf`: the ways of several errors;
* `Cleaning.IsInnermost`: a way that no other one goes on from.

## Main results

* `Cleaning.targetFrom_eq`: following a location from a value inside another one;
* `Cleaning.mem_inside_drops`: what is dropped for errors of the value of a key;
* `Cleaning.isInnermost_elementErrors`: what is dropped of a list is dropped of its elements;
* `Value.pruneItems_eq_filterMap`: what is left of a list is left of its elements;
* `Cleaning.get?_kept_of_find?`: what a round leaves of the value of a field.
-/

namespace AgentPackage

namespace Value

/-- What is left of a list is what is left of its elements, those left out that are dropped. -/
theorem pruneItems_eq_filterMap (targets : List (List Part)) (i : ℕ) (xs : List Value) :
    pruneItems targets i xs = (xs.zipIdx i).filterMap fun e =>
      if [] ∈ inside targets (.index e.2) then none
      else some (prune (inside targets (.index e.2)) e.1) := by
  induction xs generalizing i with
  | nil => rfl
  | cons x xs ih =>
    rw [pruneItems, List.zipIdx_cons, List.filterMap_cons, ih]
    by_cases hdropped : [] ∈ inside targets (.index i) <;> simp [hdropped]

end Value

namespace Cleaning

/-- The way from a value to what is dropped for an error at a location: the innermost list element
on the location. -/
def way (v : Value) (location : List Part) : List Part :=
  targetFrom v [] [] location

section Way

variable {xs : List Value} {es : Fields} {x v : Value} {path target rest : List Part}

theorem targetFrom_index {i : ℕ} (hx : xs[i]? = some x) :
    targetFrom (.list xs) path target (.index i :: rest) =
      targetFrom x (path ++ [.index i]) (path ++ [.index i]) rest := by
  simp only [targetFrom, hx]

theorem targetFrom_index_of_none {i : ℕ} (hx : xs[i]? = none) :
    targetFrom (.list xs) path target (.index i :: rest) =
      targetFrom (.list xs) path target rest := by
  simp only [targetFrom, hx]

theorem targetFrom_key {k : String} (hv : Fields.get? es k = some v) :
    targetFrom (.map es) path target (.key k :: rest) =
      targetFrom v (path ++ [.key k]) target rest := by
  simp only [targetFrom, hv]

theorem targetFrom_key_of_none {k : String} (hk : Fields.get? es k = none) :
    targetFrom (.map es) path target (.key k :: rest) = targetFrom (.map es) path target rest := by
  simp only [targetFrom, hk]

/-- The way to what is dropped ends inside the value that is followed, or it is the one that was
known before. -/
theorem targetFrom_eq (v : Value) (path target location : List Part) :
    targetFrom v path target location =
      if way v location = [] then target else path ++ way v location := by
  induction location generalizing v path target with
  | nil => rfl
  | cons part rest ih =>
    cases part with
    | index i =>
      cases v with
      | list xs =>
        rcases Option.eq_none_or_eq_some xs[i]? with hx | ⟨x, hx⟩
        · rw [way, targetFrom_index_of_none hx, targetFrom_index_of_none hx]
          exact ih ..
        · -- an element is on the way, so that the way is not empty
          rw [way, targetFrom_index hx, targetFrom_index hx, ih x, ih x ([] ++ [Part.index i])]
          by_cases hnil : way x rest = [] <;> simp [hnil]
      | _ => exact ih ..
    | key k =>
      cases v with
      | map es =>
        rcases Option.eq_none_or_eq_some (Fields.get? es k) with hk | ⟨w, hw⟩
        · rw [way, targetFrom_key_of_none hk, targetFrom_key_of_none hk]
          exact ih ..
        · rw [way, targetFrom_key hw, targetFrom_key hw, ih w, ih w ([] ++ [Part.key k])]
          by_cases hnil : way w rest = [] <;> simp [hnil]
      | _ => exact ih ..

/-- At its own location a value is dropped whole. -/
@[simp]
theorem way_nil (v : Value) : way v [] = [] := rfl

/-- An element of a list is on the way. -/
theorem way_index {i : ℕ} (hx : xs[i]? = some x) :
    way (.list xs) (.index i :: rest) = .index i :: way x rest := by
  rw [way, targetFrom_index hx, targetFrom_eq]
  by_cases hnil : way x rest = [] <;> simp [hnil]

/-- The value of a key is on the way if an element of a list inside it is. -/
theorem way_key {k : String} (hv : Fields.get? es k = some v) :
    way (.map es) (.key k :: rest) = if way v rest = [] then [] else .key k :: way v rest := by
  rw [way, targetFrom_key hv, targetFrom_eq]
  rfl

/-- A step that names no key is passed over. -/
theorem way_key_of_none {k : String} (hk : Fields.get? es k = none) :
    way (.map es) (.key k :: rest) = way (.map es) rest :=
  targetFrom_key_of_none hk

/-- Without an index on its location no element is on the way of an error. -/
theorem way_eq_nil {location : List Part} (h : ∀ part ∈ location, ∃ k, part = .key k) (v : Value) :
    way v location = [] := by
  induction location generalizing v with
  | nil => rfl
  | cons part rest ih =>
    obtain ⟨⟨k, rfl⟩, hrest⟩ := List.forall_mem_cons.mp h
    cases v with
    | map es =>
      cases hv : Fields.get? es k with
      | some v => rw [way_key hv, ih hrest v, if_pos rfl]
      | none => rw [way_key_of_none hv, ih hrest]
    | _ => exact ih hrest _

end Way

/-- The ways from a value to what is dropped for errors of it. -/
def waysOf (v : Value) (errors : List FieldError) : List (List Part) :=
  errors.map fun e => way v e.location

/-- A way is one of several, and no other one goes on from it. -/
def IsInnermost (ways : List (List Part)) (w : List Part) : Prop :=
  w ∈ ways ∧ ∀ other ∈ ways, w <+: other → other = w

theorem mem_waysOf {v : Value} {errors : List FieldError} {w : List Part} :
    w ∈ waysOf v errors ↔ ∃ e ∈ errors, way v e.location = w :=
  List.mem_map

/-- For an error inside the value of a key what lies on its way inside the value is dropped. -/
theorem target_dropAt (key : String) (v : Value) (e : FieldError) :
    (dropAt key v e).target = .key key :: way v e.location := by
  unfold dropAt
  rw [targetFrom_eq]
  split <;> simp_all

/-- Different values are dropped for several errors. -/
theorem pairwise_distinct (ds : List Drop) :
    (distinct ds).Pairwise fun a b => a.target ≠ b.target := by
  induction ds using List.reverseRecOn with
  | nil => exact .nil
  | append_singleton ds d ih =>
    rw [distinct_concat]
    split
    · exact ih
    · rename_i hnew
      refine List.pairwise_append.mpr ⟨ih, List.pairwise_singleton _ _, fun x hx y hy heq => hnew ?_⟩
      rw [List.mem_singleton.mp hy] at heq
      exact List.any_eq_true.mpr ⟨x, hx, beq_iff_eq.mpr heq⟩

/-- No value is left out when each is dropped once. -/
theorem mem_map_target_distinct {ds : List Drop} {t : List Part} :
    t ∈ (distinct ds).map Drop.target ↔ t ∈ ds.map Drop.target := by
  refine ⟨fun h => ((distinct_sublist ds).map _).subset h, fun h => ?_⟩
  induction ds using List.reverseRecOn with
  | nil => exact h
  | append_singleton ds d ih =>
    rw [distinct_concat]
    rw [List.map_append, List.mem_append] at h
    split
    · rename_i hany
      rcases h with h | h
      · exact ih h
      · obtain ⟨x, hx, heq⟩ := List.any_eq_true.mp hany
        rw [List.map_singleton, List.mem_singleton] at h
        exact h ▸ beq_iff_eq.mp heq ▸ List.mem_map_of_mem hx
    · rw [List.map_append, List.mem_append]
      exact h.imp_left ih

/-- A value is dropped if no other one that is to be dropped lies inside it. -/
theorem mem_map_target_innermost {ds : List Drop} {t : List Part} :
    t ∈ (innermost ds).map Drop.target ↔ IsInnermost (ds.map Drop.target) t := by
  have hkept : ∀ d : Drop,
      (!ds.any fun x => x.target != d.target && d.target.isPrefixOf x.target) = true ↔
      ∀ other ∈ ds.map Drop.target, d.target <+: other → other = d.target := by
    intro d
    simp only [Bool.not_eq_true', List.any_eq_false, Bool.and_eq_true, bne_iff_ne,
      List.isPrefixOf_iff_prefix, List.forall_mem_map, not_and]
    exact forall₂_congr fun x _ =>
      ⟨fun h hp => by_contra fun hne => h hne hp, fun h hne hp => hne (h hp)⟩
  unfold innermost IsInnermost
  constructor
  · intro h
    obtain ⟨d, hd, rfl⟩ := List.mem_map.mp h
    obtain ⟨hd, hin⟩ := List.mem_filter.mp hd
    exact ⟨List.mem_map_of_mem hd, (hkept d).mp hin⟩
  · rintro ⟨h, hin⟩
    obtain ⟨d, hd, rfl⟩ := List.mem_map.mp h
    exact List.mem_map_of_mem (List.mem_filter.mpr ⟨hd, (hkept d).mpr hin⟩)

/-- Of several ways there is one that no other one goes on from. -/
theorem exists_isInnermost {ways : List (List Part)} (h : ways ≠ []) : ∃ w, IsInnermost ways w := by
  have htargets : (ways.map fun w => Drop.mk w ⟨"", "", ""⟩).map Drop.target = ways := by
    rw [List.map_map]
    exact List.map_id' ways
  have hsome : (ways.map fun w => Drop.mk w ⟨"", "", ""⟩) ≠ [] := by simpa using h
  obtain ⟨d, hd⟩ := List.exists_mem_of_ne_nil _ (innermost_ne_nil hsome)
  have hinnermost := mem_map_target_innermost.mp (List.mem_map_of_mem (f := Drop.target) hd)
  rw [htargets] at hinnermost
  exact ⟨_, hinnermost⟩

/-- The ways of the drops for errors inside the value of a key, seen from the value: the innermost
ones of these errors. -/
theorem mem_inside_drops (key : String) {v : Value} {errors : List FieldError} {w : List Part} :
    w ∈ Value.inside ((innermost (distinct (errors.map (dropAt key v)))).map Drop.target)
        (.key key) ↔
      IsInnermost (waysOf v errors) w := by
  have hmem : ∀ t, t ∈ (distinct (errors.map (dropAt key v))).map Drop.target ↔
      ∃ u ∈ waysOf v errors, .key key :: u = t := by
    intro t
    rw [mem_map_target_distinct, List.map_map, waysOf]
    simp only [List.mem_map, Function.comp_apply, target_dropAt]
    constructor
    · rintro ⟨e, he, rfl⟩
      exact ⟨_, ⟨e, he, rfl⟩, rfl⟩
    · rintro ⟨u, ⟨e, he, rfl⟩, rfl⟩
      exact ⟨e, he, rfl⟩
  rw [Value.mem_inside, mem_map_target_innermost]
  unfold IsInnermost
  simp only [hmem, List.cons.injEq, true_and, exists_eq_right, forall_exists_index, and_imp,
    forall_apply_eq_imp_iff₂, List.prefix_cons_inj]

section Elements

variable {errors : Value → List FieldError} {xs : List Value}

/-- The ways from a list go through its elements. -/
theorem mem_waysOf_elementErrors {w : List Part} :
    w ∈ waysOf (.list xs) (Shape.elementErrors errors xs) ↔ ∃ i x, xs[i]? = some x ∧
      ∃ u ∈ waysOf x (errors x), .index i :: u = w := by
  simp only [mem_waysOf, mem_elementErrors]
  constructor
  · rintro ⟨_, ⟨i, x, hx, inner, hinner, rfl⟩, rfl⟩
    exact ⟨i, x, hx, _, ⟨inner, hinner, rfl⟩, (way_index hx).symm⟩
  · rintro ⟨i, x, hx, _, ⟨inner, hinner, rfl⟩, rfl⟩
    exact ⟨_, ⟨i, x, hx, inner, hinner, rfl⟩, way_index hx⟩

/-- What is dropped of a list is what is dropped of its elements. -/
theorem isInnermost_elementErrors {i : ℕ} {x : Value} (hx : xs[i]? = some x) {w : List Part} :
    IsInnermost (waysOf (.list xs) (Shape.elementErrors errors xs)) (.index i :: w) ↔
      IsInnermost (waysOf x (errors x)) w := by
  have hmem : ∀ u, .index i :: u ∈ waysOf (.list xs) (Shape.elementErrors errors xs) ↔
      u ∈ waysOf x (errors x) := by
    intro u
    rw [mem_waysOf_elementErrors]
    constructor
    · rintro ⟨j, y, hy, u', hu', heq⟩
      cases heq
      exact Option.some.inj (hy.symm.trans hx) ▸ hu'
    · exact fun hu => ⟨i, x, hx, u, hu, rfl⟩
  unfold IsInnermost
  rw [hmem]
  refine and_congr_right fun _ =>
    ⟨fun h other hother hinitial => ?_, fun h other hother hinitial => ?_⟩
  · exact (List.cons.inj (h _ ((hmem other).mpr hother)
      ((List.prefix_cons_inj _).mpr hinitial))).2
  · obtain ⟨tail, rfl⟩ := hinitial
    rw [List.cons_append] at hother ⊢
    rw [h _ ((hmem _).mp hother) (List.prefix_append w tail)]

/-- A list itself is not dropped for errors of its elements. -/
theorem not_isInnermost_nil :
    ¬ IsInnermost (waysOf (.list xs) (Shape.elementErrors errors xs)) [] := by
  rintro ⟨h, -⟩
  obtain ⟨i, x, -, u, -, heq⟩ := mem_waysOf_elementErrors.mp h
  cases heq

variable {ways : List (List Part)}

/-- What is dropped inside of an element is what is dropped for its errors. -/
theorem mem_inside_index (hways : ∀ w, w ∈ ways ↔
      IsInnermost (waysOf (.list xs) (Shape.elementErrors errors xs)) w)
    {e : Value × ℕ} (he : e ∈ xs.zipIdx) (w : List Part) :
    w ∈ Value.inside ways (.index e.2) ↔ IsInnermost (waysOf e.1 (errors e.1)) w := by
  rw [Value.mem_inside, hways, isInnermost_elementErrors (List.mem_zipIdx_iff_getElem?.mp he)]

/-- What is made of the elements of a list stays the same in a round in which it stays the same for
each element that is left, if nothing is made of those that are dropped. -/
theorem filterMap_pruneItems {β : Type} {g : Value → Option β} (hways : ∀ w, w ∈ ways ↔
      IsInnermost (waysOf (.list xs) (Shape.elementErrors errors xs)) w)
    (hdropped : ∀ x ∈ xs, IsInnermost (waysOf x (errors x)) [] → g x = none)
    (hkept : ∀ x ∈ xs, ∀ inner, (∀ w, w ∈ inner ↔ IsInnermost (waysOf x (errors x)) w) →
      [] ∉ inner → g (x.prune inner) = g x) :
    (Value.pruneItems ways 0 xs).filterMap g = xs.filterMap g := by
  have hxs : xs.filterMap g = xs.zipIdx.filterMap fun e => g e.1 := by
    conv_lhs => rw [← List.zipIdx_map_fst 0 xs, List.filterMap_map]
    rfl
  rw [Value.pruneItems_eq_filterMap, List.filterMap_filterMap, hxs]
  refine List.filterMap_congr fun e he => ?_
  have hmem : e.1 ∈ xs := List.mem_of_getElem? (List.mem_zipIdx_iff_getElem?.mp he)
  split
  · rename_i hnil
    exact (hdropped e.1 hmem ((mem_inside_index hways he []).mp hnil)).symm
  · rename_i hnil
    exact hkept e.1 hmem _ (mem_inside_index hways he) hnil

/-- What is left of a list has a property that what is left of each element has. -/
theorem forall_mem_pruneItems {p : Value → Prop} (hways : ∀ w, w ∈ ways ↔
      IsInnermost (waysOf (.list xs) (Shape.elementErrors errors xs)) w)
    (hkept : ∀ x ∈ xs, ∀ inner, (∀ w, w ∈ inner ↔ IsInnermost (waysOf x (errors x)) w) →
      [] ∉ inner → p (x.prune inner)) :
    ∀ y ∈ Value.pruneItems ways 0 xs, p y := by
  intro y hy
  rw [Value.pruneItems_eq_filterMap] at hy
  obtain ⟨e, he, hy⟩ := List.mem_filterMap.mp hy
  split at hy
  · cases hy
  · rename_i hnil
    cases hy
    exact hkept e.1 (List.mem_of_getElem? (List.mem_zipIdx_iff_getElem?.mp he)) _
      (mem_inside_index hways he) hnil

end Elements

section Rounds

variable {r : RecordShape Shape} {fields : Fields} {f : FieldShape Shape} {key : String} {v : Value}

/-- A round leaves of the value of a field what is left when the innermost ways of its errors are
dropped. -/
theorem get?_kept_of_find? (hr : r.Spelled) (hkeys : fields.HasStringKeys) (hf : f ∈ r.fields)
    (hfind : f.find? fields = some (key, v)) :
    ∃ ways, (∀ w, w ∈ ways ↔ IsInnermost (waysOf v (f.shape.errors v)) w) ∧
      Fields.get? (kept r fields) key = if [] ∈ ways then none else some (v.prune ways) := by
  refine ⟨_, fun _ => mem_inside_drops key, ?_⟩
  rw [get?_kept hr hkeys (filter_dropped hr hkeys hf hfind), (FieldShape.find?_eq_some.mp hfind).1]
  simp only [List.contains_iff_mem, Option.map_some]

end Rounds

end Cleaning

end AgentPackage
