import AgentPackage.Proofs.Manifest.Cleaning
import Mathlib.Data.List.MinMax

/-!
# What cleaning drops

Every error of a mapping whose keys are strings is about one of its keys. The value that is dropped
for it is a part of the mapping, so the mapping becomes smaller in each round of cleaning and
cleaning ends with a manifest.

## Main definitions

* `Value.at?`: the part of a value that a way leads to;
* `Fields.HasStringKeys`: the keys of a mapping are strings.

## Main results

* `Value.size_prune_lt`: a value without one of its parts is smaller;
* `Cleaning.exists_cleanFrom`: a mapping whose keys are strings can be cleaned;
* `Cleaning.copyCalls_clean_le`: what is left of a mapping takes no more calls to copy;
* `Manifest.exists_load`: a mapping whose keys are strings can be loaded as a manifest, if there is
  room for copying it.
-/

namespace AgentPackage

/-- The keys of a mapping are strings. -/
def Fields.HasStringKeys (fields : Fields) : Prop :=
  ∀ e ∈ fields, e.1.isStr = true

/-- The value of a key stands at the first entry with the key. -/
theorem Fields.get?_cons {e : Value × Value} {es : Fields} {k : String} :
    Fields.get? (e :: es) k = if e.1.isString k then some e.2 else Fields.get? es k := by
  unfold Fields.get?
  rw [List.find?_cons]
  cases e.1.isString k <;> rfl

theorem Fields.contains_eq {fields : Fields} {k : String} :
    fields.contains k = (fields.get? k).isSome := by
  induction fields with
  | nil => rfl
  | cons e es ih =>
    rw [Fields.get?_cons, ← Bool.cond_eq_ite]
    unfold Fields.contains at ih ⊢
    rw [List.any_cons, ih]
    cases e.1.isString k <;> rfl

namespace Value

/-- The part of a value that a way leads to. -/
def at? : Value → List Part → Option Value
  | v, [] => some v
  | .list xs, .index i :: rest => xs[i]?.bind fun x => at? x rest
  | .map es, .key k :: rest => (Fields.get? es k).bind fun v => at? v rest
  | _, _ => none

theorem at?_append {v : Value} {p q : List Part} :
    v.at? (p ++ q) = (v.at? p).bind fun w => w.at? q := by
  induction p generalizing v with
  | nil => simp [at?]
  | cons part p ih =>
    cases v with
    | list xs =>
      cases part with
      | index i => simp only [List.cons_append, at?, Option.bind_assoc, ih]
      | key k => rfl
    | map es =>
      cases part with
      | index i => rfl
      | key k => simp only [List.cons_append, at?, Option.bind_assoc, ih]
    | _ => cases part <;> rfl

section Size

theorem size_pos (v : Value) : 0 < v.size := by
  cases v <;> simp [size]

theorem mem_inside {targets : List (List Part)} {p : Part} {rest : List Part} :
    rest ∈ inside targets p ↔ p :: rest ∈ targets := by
  unfold inside
  rw [List.mem_filterMap]
  constructor
  · rintro ⟨target, htarget, h⟩
    cases target with
    | nil => cases h
    | cons q rest' =>
      obtain ⟨hq, hrest⟩ := Option.ite_none_right_eq_some.mp h
      rw [← beq_iff_eq.mp hq, ← Option.some.inj hrest]
      exact htarget
  · intro h
    exact ⟨_, h, by simp⟩

mutual

/-- Dropping parts of a value makes it no larger. -/
theorem size_prune_le : ∀ (targets : List (List Part)) (v : Value), size (prune targets v) ≤ size v
  | targets, .list xs => by
    rw [prune, size, size]
    exact Nat.succ_le_succ (sizeAll_pruneItems_le targets 0 xs)
  | targets, .map es => by
    rw [prune, size, size]
    exact Nat.succ_le_succ (sizeEntries_pruneEntries_le targets es)
  | _, .null | _, .bool _ | _, .int _ | _, .float _ | _, .str _ | _, .date _ | _, .dateTime _
  | _, .bytes _ | _, .tuple _ | _, .set _ => Nat.le_refl _

/-- Dropping items of a list makes it no larger. -/
theorem sizeAll_pruneItems_le : ∀ (targets : List (List Part)) (i : ℕ) (xs : List Value),
    sizeAll (pruneItems targets i xs) ≤ sizeAll xs
  | _, _, [] => Nat.le_refl _
  | targets, i, x :: xs => by
    have hx := size_prune_le (inside targets (.index i)) x
    have hxs := sizeAll_pruneItems_le targets (i + 1) xs
    rw [pruneItems]
    split
    · rw [sizeAll]
      omega
    · rw [sizeAll, sizeAll]
      omega

/-- Dropping entries of a mapping makes it no larger. -/
theorem sizeEntries_pruneEntries_le : ∀ (targets : List (List Part)) (es : List (Value × Value)),
    sizeEntries (pruneEntries targets es) ≤ sizeEntries es
  | _, [] => Nat.le_refl _
  | targets, (.str key, v) :: es => by
    have hv := size_prune_le (inside targets (.key key)) v
    have hes := sizeEntries_pruneEntries_le targets es
    rw [pruneEntries]
    split
    · rw [sizeEntries]
      omega
    · rw [sizeEntries, sizeEntries]
      omega
  | targets, (.null, _) :: es | targets, (.bool _, _) :: es | targets, (.int _, _) :: es
  | targets, (.float _, _) :: es | targets, (.date _, _) :: es | targets, (.dateTime _, _) :: es
  | targets, (.bytes _, _) :: es | targets, (.list _, _) :: es | targets, (.tuple _, _) :: es
  | targets, (.set _, _) :: es | targets, (.map _, _) :: es => by
    have hes := sizeEntries_pruneEntries_le targets es
    rw [pruneEntries]
    · rw [sizeEntries, sizeEntries]
      omega
    · simp

end

/-- A part is dropped whole or becomes smaller. -/
def Shrinks (targets : List (List Part)) (v : Value) : Prop :=
  [] ∈ targets ∨ size (prune targets v) < size v

/-- A list becomes smaller with one of its items. -/
theorem sizeAll_pruneItems_lt {targets : List (List Part)} {xs : List Value} {i j : ℕ} {x : Value}
    (hx : xs[i]? = some x) (hshrinks : Shrinks (inside targets (.index (j + i))) x) :
    sizeAll (pruneItems targets j xs) < sizeAll xs := by
  induction xs generalizing i j with
  | nil => simp at hx
  | cons y xs ih =>
    have hy := size_pos y
    have hle := size_prune_le (inside targets (.index j)) y
    have hxs := sizeAll_pruneItems_le targets (j + 1) xs
    rw [pruneItems, sizeAll]
    cases i with
    | zero =>
      cases hx
      rw [Nat.add_zero] at hshrinks
      split
      · omega
      · rename_i hkept
        rw [sizeAll]
        have hlt := hshrinks.resolve_left fun h => hkept (List.contains_iff_mem.mpr h)
        omega
    | succ i =>
      have hlt := ih (i := i) (j := j + 1) hx (by rwa [Nat.add_assoc, Nat.add_comm 1 i])
      split
      · omega
      · rw [sizeAll]
        omega

/-- A mapping becomes smaller with the entries behind its first one. -/
theorem sizeEntries_pruneEntries_cons_lt {targets : List (List Part)} {es : List (Value × Value)}
    (e : Value × Value) (h : sizeEntries (pruneEntries targets es) < sizeEntries es) :
    sizeEntries (pruneEntries targets (e :: es)) < sizeEntries (e :: es) := by
  obtain ⟨key, v⟩ := e
  rw [sizeEntries]
  cases key with
  | str key =>
    have hv := size_prune_le (inside targets (.key key)) v
    rw [pruneEntries]
    split
    · omega
    · rw [sizeEntries]
      omega
  | _ =>
    rw [pruneEntries, sizeEntries]
    · omega
    · simp

/-- A mapping becomes smaller with the value of one of its keys. -/
theorem sizeEntries_pruneEntries_lt {targets : List (List Part)} {es : List (Value × Value)}
    {k : String} {v : Value} (hv : Fields.get? es k = some v)
    (hshrinks : Shrinks (inside targets (.key k)) v) :
    sizeEntries (pruneEntries targets es) < sizeEntries es := by
  induction es with
  | nil => cases hv
  | cons e es ih =>
    rw [Fields.get?_cons] at hv
    have hes := sizeEntries_pruneEntries_le targets es
    cases hkey : e.1.isString k with
    | true =>
      obtain ⟨key, w⟩ := e
      obtain rfl : key = .str k := by
        cases key <;> simp [isString] at hkey
        rw [hkey]
      rw [hkey, if_pos rfl] at hv
      obtain rfl : w = v := Option.some.inj hv
      have hw := size_pos w
      rw [pruneEntries, sizeEntries]
      split
      · omega
      · rename_i hkept
        rw [sizeEntries]
        have hlt := hshrinks.resolve_left fun h => hkept (List.contains_iff_mem.mpr h)
        omega
    | false =>
      rw [hkey, if_neg Bool.false_ne_true] at hv
      exact sizeEntries_pruneEntries_cons_lt e (ih hv)

/-- A value without one of its parts is smaller. -/
theorem size_prune_lt {target : List Part} (hne : target ≠ []) {v : Value}
    (hat : (v.at? target).isSome) {targets : List (List Part)} (hmem : target ∈ targets) :
    size (prune targets v) < size v := by
  induction target generalizing v targets with
  | nil => exact absurd rfl hne
  | cons part rest ih =>
    have hinner := mem_inside.mpr hmem
    -- the value at the first part of the way is dropped, or it is larger than what is left of it
    have hshrinks : ∀ w : Value, (w.at? rest).isSome → Shrinks (inside targets part) w := by
      intro w hw
      by_cases hrest : rest = []
      · rw [hrest] at hinner
        exact .inl hinner
      · exact .inr (ih hrest hw hinner)
    cases v with
    | list xs =>
      cases part with
      | key k => cases hat
      | index i =>
        rw [prune, size, size]
        cases hx : xs[i]? with
        | none => simp [at?, hx] at hat
        | some x =>
          have hrest : (x.at? rest).isSome := by simpa [at?, hx] using hat
          have hlt := sizeAll_pruneItems_lt (j := 0) hx (by rw [Nat.zero_add]; exact hshrinks x hrest)
          omega
    | map es =>
      cases part with
      | index i => cases hat
      | key k =>
        rw [prune, size, size]
        cases hw : Fields.get? es k with
        | none => simp [at?, hw] at hat
        | some w =>
          have hrest : (w.at? rest).isSome := by simpa [at?, hw] using hat
          have hlt := sizeEntries_pruneEntries_lt hw (hshrinks w hrest)
          omega
    | _ => cases part <;> cases hat

end Size

section Copy

mutual

/-- Dropping parts of a value makes it nested no deeper. -/
theorem copyCalls_prune_le : ∀ (targets : List (List Part)) (v : Value),
    copyCalls (prune targets v) ≤ copyCalls v
  | targets, .list xs => by
    have hxs := copyCallsAll_pruneItems_le targets 0 xs
    rw [prune, copyCalls, copyCalls]
    omega
  | targets, .map es => by
    have hes := copyCallsEntries_pruneEntries_le targets es
    rw [prune, copyCalls, copyCalls]
    omega
  | _, .null | _, .bool _ | _, .int _ | _, .float _ | _, .str _ | _, .date _ | _, .dateTime _
  | _, .bytes _ | _, .tuple _ | _, .set _ => Nat.le_refl _

/-- Dropping items of a list makes it nested no deeper. -/
theorem copyCallsAll_pruneItems_le : ∀ (targets : List (List Part)) (i : ℕ) (xs : List Value),
    copyCallsAll (pruneItems targets i xs) ≤ copyCallsAll xs
  | _, _, [] => Nat.le_refl _
  | targets, i, x :: xs => by
    have hx := copyCalls_prune_le (inside targets (.index i)) x
    have hxs := copyCallsAll_pruneItems_le targets (i + 1) xs
    rw [pruneItems]
    split
    · rw [copyCallsAll]
      omega
    · rw [copyCallsAll, copyCallsAll]
      omega

/-- Dropping entries of a mapping makes it nested no deeper. -/
theorem copyCallsEntries_pruneEntries_le : ∀ (targets : List (List Part))
    (es : List (Value × Value)), copyCallsEntries (pruneEntries targets es) ≤ copyCallsEntries es
  | _, [] => Nat.le_refl _
  | targets, (.str key, v) :: es => by
    have hv := copyCalls_prune_le (inside targets (.key key)) v
    have hes := copyCallsEntries_pruneEntries_le targets es
    rw [pruneEntries]
    split
    · rw [copyCallsEntries]
      omega
    · rw [copyCallsEntries, copyCallsEntries]
      omega
  | targets, (.null, _) :: es | targets, (.bool _, _) :: es | targets, (.int _, _) :: es
  | targets, (.float _, _) :: es | targets, (.date _, _) :: es | targets, (.dateTime _, _) :: es
  | targets, (.bytes _, _) :: es | targets, (.list _, _) :: es | targets, (.tuple _, _) :: es
  | targets, (.set _, _) :: es | targets, (.map _, _) :: es => by
    have hes := copyCallsEntries_pruneEntries_le targets es
    rw [pruneEntries]
    · rw [copyCallsEntries, copyCallsEntries]
      omega
    · simp

end

end Copy

end Value

namespace Cleaning

variable {r : RecordShape Shape} {fields : Fields}

/-- A part on the way of an error is a part of the mapping. -/
theorem at?_targetFrom {root current : Value} {path target rest : List Part}
    (hpath : root.at? path = some current) (htarget : (root.at? target).isSome) (hne : target ≠ []) :
    (root.at? (targetFrom current path target rest)).isSome ∧
      targetFrom current path target rest ≠ [] := by
  induction rest generalizing current path target with
  | nil => exact ⟨htarget, hne⟩
  | cons part rest ih =>
    cases part with
    | index i =>
      cases current with
      | list xs =>
        rw [targetFrom]
        split
        · rename_i x hx
          have hpath' : root.at? (path ++ [.index i]) = some x := by
            rw [Value.at?_append, hpath]
            simp [Value.at?, hx]
          exact ih hpath' (by rw [hpath']; rfl) (by simp)
        · exact ih hpath htarget hne
      | _ => exact ih hpath htarget hne
    | key k =>
      cases current with
      | map es =>
        rw [targetFrom]
        split
        · rename_i v hv
          have hpath' : root.at? (path ++ [.key k]) = some v := by
            rw [Value.at?_append, hpath]
            simp [Value.at?, hv]
          exact ih hpath' htarget hne
        · exact ih hpath htarget hne
      | _ => exact ih hpath htarget hne

/-- A mapping whose keys are strings has no errors of keys. -/
theorem keyErrors_eq_nil (h : fields.HasStringKeys) : keyErrors fields = [] := by
  unfold keyErrors
  rw [List.filter_eq_nil_iff.mpr fun e he => by simp [h e he]]
  rfl

/-- Nor has it errors of keys where the keys are to be texts. -/
theorem textKeyErrors_eq_nil (h : fields.HasStringKeys) : textKeyErrors fields = [] := by
  refine List.flatMap_eq_nil_iff.mpr fun e he => ?_
  obtain ⟨key, v⟩ := e
  cases key with
  | str s => rfl
  | _ => cases h _ he

/-- The errors of the values in the fields of a mapping. -/
def valueErrors (r : RecordShape Shape) (fields : Fields) : List FieldError :=
  r.fields.flatMap fun f =>
    match f.find? fields with
    | some (key, v) => FieldError.under (.key key) (f.shape.errors v)
    | none => []

/-- A mapping has the errors of its values and those of its keys. -/
theorem check_eq (r : RecordShape Shape) (fields : Fields) :
    r.check fields = valueErrors r fields ++ keyErrors fields := rfl

/-- An error of a value is about a key that the mapping holds. -/
theorem exists_of_mem_valueErrors {e : FieldError} (he : e ∈ valueErrors r fields) :
    ∃ key rest, e.location = .key key :: rest ∧ fields.contains key = true := by
  obtain ⟨f, -, he⟩ := List.mem_flatMap.mp he
  split at he
  · rename_i key v hfind
    obtain ⟨inner, -, rfl⟩ := List.mem_map.mp he
    refine ⟨key, inner.location, rfl, ?_⟩
    -- the field is found under one of its two spellings
    rw [Fields.contains_eq]
    unfold FieldShape.find? at hfind
    split at hfind
    · rename_i hget
      cases hfind
      rw [hget]
      rfl
    · obtain ⟨w, hget, hw⟩ := Option.map_eq_some_iff.mp hfind
      cases hw
      rw [hget]
      rfl
  · cases he

/-- For a key that a mapping holds there is one under which errors are about its field. -/
theorem exists_topKey? {key : String} (hheld : fields.contains key = true) :
    ∃ top v, topKey? r fields key = some top ∧ fields.get? top = some v := by
  -- the key is looked for under the two spellings of its field, or under its own
  have hspelling : ∃ spellings : List String, key ∈ spellings ∧
      topKey? r fields key = spellings.find? fields.contains := by
    unfold topKey?
    cases hfind : r.fields.find? fun f => f.key == key || f.otherKey == key with
    | none => exact ⟨[key], by simp, rfl⟩
    | some f =>
      have hf := List.find?_some hfind
      rw [Bool.or_eq_true, beq_iff_eq, beq_iff_eq] at hf
      refine ⟨_, ?_, rfl⟩
      dsimp only
      split <;> rcases hf with rfl | rfl <;> simp
  obtain ⟨spellings, hmem, htop⟩ := hspelling
  rw [htop]
  cases hfind : spellings.find? fields.contains with
  | none => exact absurd hheld (List.find?_eq_none.mp hfind key hmem)
  | some top =>
    have htop := List.find?_some hfind
    rw [Fields.contains_eq, Option.isSome_iff_exists] at htop
    obtain ⟨v, hv⟩ := htop
    exact ⟨top, v, rfl, hv⟩

/-- What is dropped is a part of the mapping, but not the whole of it. -/
def Drop.IsPartOf (d : Drop) (fields : Fields) : Prop :=
  d.target ≠ [] ∧ ((Value.map fields).at? d.target).isSome

/-- What is dropped for an error is a part of the mapping. -/
theorem isPartOf_of_dropFor? {e : FieldError} {d : Drop} (h : dropFor? r fields e = some d) :
    d.IsPartOf fields := by
  unfold dropFor? at h
  split at h
  · cases h
  · rename_i first rest hlocation
    obtain ⟨top, -, h⟩ := Option.bind_eq_some_iff.mp h
    obtain ⟨w, hw, h⟩ := Option.bind_eq_some_iff.mp h
    cases h
    have hpath : (Value.map fields).at? [.key top] = some w := by
      simp [Value.at?, hw]
    have htarget : ((Value.map fields).at? (targetFrom w [.key top] [.key top] rest)).isSome ∧
        targetFrom w [.key top] [.key top] rest ≠ [] :=
      at?_targetFrom hpath (by rw [hpath]; rfl) (List.cons_ne_nil _ _)
    exact ⟨htarget.2, htarget.1⟩

/-- For an error of a value something is dropped. -/
theorem exists_dropFor? {e : FieldError} (he : e ∈ valueErrors r fields) :
    ∃ d, dropFor? r fields e = some d := by
  obtain ⟨key, rest, hlocation, hheld⟩ := exists_of_mem_valueErrors he
  obtain ⟨top, w, htop, hw⟩ := exists_topKey? (r := r) hheld
  unfold dropFor?
  rw [hlocation]
  dsimp only
  rw [show (Part.key key).text = key from rfl, htop]
  simp only [Option.bind_eq_bind, Option.bind_some, hw]
  exact ⟨_, rfl⟩

/-- What is dropped is what the errors call for, each value once: nothing is dropped only where no
error calls for anything. -/
theorem drops_spec (errors : List FieldError) :
    (∀ d ∈ drops r fields errors, d.IsPartOf fields) ∧
      (drops r fields errors = [] → ∀ e ∈ errors, dropFor? r fields e = none) := by
  unfold drops
  -- from the last error on
  induction errors using List.reverseRecOn with
  | nil => exact ⟨List.forall_mem_nil _, fun _ => List.forall_mem_nil _⟩
  | append_singleton errors e ih =>
    obtain ⟨hparts, hnil⟩ := ih
    rw [List.foldl_append, List.foldl_cons, List.foldl_nil, List.forall_mem_append,
      List.forall_mem_singleton]
    split
    · rename_i d hd
      split
      · -- a part that several errors are about is dropped once
        rename_i hany
        obtain ⟨x, hx, -⟩ := List.any_eq_true.mp hany
        exact ⟨hparts, fun h => absurd h (List.ne_nil_of_mem hx)⟩
      · refine ⟨?_, fun h => absurd h (by simp)⟩
        rw [List.forall_mem_append, List.forall_mem_singleton]
        exact ⟨hparts, isPartOf_of_dropFor? hd⟩
    · exact ⟨hparts, fun h => ⟨hnil h, ‹_›⟩⟩

/-- Of some values to drop there is one inside which no other lies. -/
theorem innermost_ne_nil {ds : List Drop} (hne : ds ≠ []) : innermost ds ≠ [] := by
  -- one with the longest way
  obtain ⟨d, hd⟩ : ∃ d, ds.argmax (fun x => x.target.length) = some d :=
    Option.ne_none_iff_exists'.mp fun hnone => hne (List.argmax_eq_none.mp hnone)
  have hmax : ∀ x ∈ ds, x.target.length ≤ d.target.length := fun x hx =>
    List.le_of_mem_argmax (f := fun x : Drop => x.target.length) hx hd
  refine List.ne_nil_of_mem (a := d) (List.mem_filter.mpr ⟨List.argmax_mem hd, ?_⟩)
  rw [Bool.not_eq_true', List.any_eq_false]
  intro x hx hinside
  rw [Bool.and_eq_true, bne_iff_ne, List.isPrefixOf_iff_prefix] at hinside
  exact hinside.1 (hinside.2.eq_of_length_le (hmax x hx)).symm

/-- A round of cleaning makes a mapping smaller, unless no error calls for anything to be dropped. -/
theorem sizeEntries_lt (h : drops r fields (r.check fields) ≠ []) :
    Value.sizeEntries (Value.pruneEntries
      ((innermost (drops r fields (r.check fields))).map Drop.target) fields) <
        Value.sizeEntries fields := by
  obtain ⟨d, hd⟩ := List.exists_mem_of_ne_nil _ (innermost_ne_nil h)
  obtain ⟨htarget, hat⟩ := (drops_spec (r.check fields)).1 d (List.mem_of_mem_filter hd)
  have hlt := Value.size_prune_lt htarget hat (List.mem_map_of_mem (f := Drop.target) hd)
  rw [Value.prune, Value.size, Value.size] at hlt
  omega

/-- Where nothing is dropped there are errors of keys only. -/
theorem check_eq_keyErrors (h : drops r fields (r.check fields) = []) :
    r.check fields = keyErrors fields := by
  have hnone := (drops_spec (r.check fields)).2 h
  rw [check_eq] at hnone
  have hvalues : valueErrors r fields = [] := by
    refine List.eq_nil_iff_forall_not_mem.mpr fun e he => ?_
    obtain ⟨d, hd⟩ := exists_dropFor? he
    cases hd.symm.trans (hnone e (List.mem_append_left _ he))
  rw [check_eq, hvalues, List.nil_append]

/-- Dropping parts of a mapping changes no key. -/
theorem hasStringKeys_pruneEntries (h : fields.HasStringKeys) (targets : List (List Part)) :
    Fields.HasStringKeys (Value.pruneEntries targets fields) := by
  induction fields with
  | nil => exact h
  | cons e es ih =>
    obtain ⟨key, v⟩ := e
    obtain ⟨hkey, hes⟩ := List.forall_mem_cons.mp h
    cases key with
    | str key =>
      rw [Value.pruneEntries]
      split
      · exact ih hes
      · exact List.forall_mem_cons.mpr ⟨rfl, ih hes⟩
    | _ => cases hkey

/-- A mapping whose keys are strings can be cleaned. -/
theorem exists_cleanFrom (h : fields.HasStringKeys) (issues : List FieldIssue) :
    ∃ result, cleanFrom r issues fields = .ok result := by
  -- along the rounds: each leaves a smaller mapping, so that another one is made
  induction issues, fields using cleanFrom.induct r with
  | case1 issues fields hcheck =>
    rw [cleanFrom, hcheck]
    exact ⟨_, rfl⟩
  | case2 issues fields hcheck ds rest hsmaller ih =>
    rw [cleanFrom]
    split
    · exact ⟨_, rfl⟩
    · rw [dif_pos hsmaller]
      exact ih (hasStringKeys_pruneEntries h _)
  | case3 issues fields hcheck ds rest hsmaller =>
    refine absurd (sizeEntries_lt fun hnil => hcheck ?_) hsmaller
    rw [check_eq_keyErrors hnil, keyErrors_eq_nil h]

/-- What is left of a mapping takes no more calls to copy than the mapping. -/
theorem copyCalls_cleanFrom_le {issues : List FieldIssue} {result : Fields × List FieldIssue}
    (h : cleanFrom r issues fields = .ok result) : result.1.copyCalls ≤ fields.copyCalls := by
  induction issues, fields using cleanFrom.induct r with
  | case1 issues fields hcheck =>
    rw [cleanFrom, hcheck] at h
    cases h
    exact Nat.le_refl _
  | case2 issues fields hcheck ds rest hsmaller ih =>
    have hrest : Fields.copyCalls rest ≤ fields.copyCalls :=
      Value.copyCalls_prune_le _ (.map fields)
    rw [cleanFrom] at h
    split at h
    · cases h
      exact Nat.le_refl _
    · rw [dif_pos hsmaller] at h
      exact (ih h).trans hrest
  | case3 issues fields hcheck ds rest hsmaller =>
    rw [cleanFrom] at h
    split at h
    · cases h
      exact Nat.le_refl _
    · rw [dif_neg hsmaller] at h
      cases h

theorem copyCalls_clean_le {result : Fields × List FieldIssue} (h : clean r fields = .ok result) :
    result.1.copyCalls ≤ fields.copyCalls :=
  copyCalls_cleanFrom_le h

end Cleaning

/-- A mapping whose keys are strings can be loaded as a manifest, if there is room for copying it. -/
theorem Manifest.exists_load {α : Type} (shape : RecordShape Shape) (build : Fields → α)
    {fields : Fields} {room : ℕ} (hroom : fields.copyCalls ≤ room) (h : fields.HasStringKeys) :
    ∃ result, Manifest.load shape build fields room = .ok result := by
  obtain ⟨⟨clean, issues⟩, hclean⟩ := Cleaning.exists_cleanFrom (r := shape) h []
  exact ⟨_, Manifest.load_eq_ok.mpr ⟨hroom, clean, hclean, rfl⟩⟩

end AgentPackage
