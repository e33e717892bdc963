import AgentPackage.Proofs.Manifest.Cleaning
import AgentPackage.Proofs.Manifest.Dropping
import Mathlib.Data.List.Induction
import Mathlib.Data.List.Sigma

/-!
# Rounds of cleaning

A round of cleaning drops values of several keys at once. What it drops under one key depends on the
value of that key alone, so each key can be followed through the rounds by itself: a key that no
issue names keeps its value, an issue names a key whose value does not fit, and a list of strings
loses in one round all that is no string.

## Main definitions

* `RecordShape.Spelled`: no two fields share a spelling;
* `Cleaning.dropped`, `Cleaning.kept`: what a round drops and what it keeps;
* `Cleaning.textIssues`: the issues of a list of strings;
* `Cleaning.Explains`: issues account for the difference between two mappings;
* `Cleaning.LeavesTexts`: issues account for what a list of strings has lost.

## Main results

* `Cleaning.cleanFrom_induction`: what every round preserves holds of the cleaned mapping;
* `Cleaning.filter_dropped`: what a round drops under a key;
* `Cleaning.explains_clean`: what is reported accounts for what is changed;
* `Cleaning.find?_clean_texts`: a list of strings is left without what is no string.
-/

namespace AgentPackage

section Spellings

variable {α : Type}

/-- Two fields share no spelling of their keys. -/
def FieldShape.Apart (f g : FieldShape α) : Prop :=
  f.key ≠ g.key ∧ f.key ≠ g.otherKey ∧ f.otherKey ≠ g.key ∧ f.otherKey ≠ g.otherKey

instance (f g : FieldShape α) : Decidable (f.Apart g) :=
  inferInstanceAs (Decidable (_ ∧ _))

/-- No two fields of a record share a spelling, and the spelling that wins is the first in order. -/
structure RecordShape.Spelled (r : RecordShape α) : Prop where
  /-- No two fields share a spelling. -/
  apart : r.fields.Pairwise FieldShape.Apart
  /-- The spelling that wins comes first. -/
  key_le : ∀ f ∈ r.fields, f.key ≤ f.otherKey

instance (r : RecordShape α) : Decidable r.Spelled :=
  decidable_of_iff (r.fields.Pairwise FieldShape.Apart ∧ ∀ f ∈ r.fields, f.key ≤ f.otherKey)
    ⟨fun h => ⟨h.1, h.2⟩, fun h => ⟨h.apart, h.key_le⟩⟩

/-- A field is found under the first of its spellings that the mapping holds. -/
theorem FieldShape.find?_eq_some {f : FieldShape α} {fields : Fields} {key : String} {v : Value} :
    f.find? fields = some (key, v) ↔ fields.get? key = some v ∧
      (key = f.key ∨ key = f.otherKey ∧ fields.get? f.key = none) := by
  unfold FieldShape.find?
  cases hkey : fields.get? f.key with
  | some w =>
    simp only [Option.some.injEq, Prod.mk.injEq]
    constructor
    · rintro ⟨rfl, rfl⟩
      exact ⟨hkey, .inl rfl⟩
    · rintro ⟨hv, rfl | ⟨-, hnone⟩⟩
      · exact ⟨rfl, Option.some.inj (hkey.symm.trans hv)⟩
      · cases hnone
  | none =>
    simp only [Option.map_eq_some_iff, Prod.mk.injEq]
    constructor
    · rintro ⟨w, hw, rfl, rfl⟩
      exact ⟨hw, .inr ⟨rfl, trivial⟩⟩
    · rintro ⟨hv, rfl | ⟨rfl, -⟩⟩
      · cases hkey.symm.trans hv
      · exact ⟨v, hv, rfl, rfl⟩

/-- The key under which a field is found is one of its spellings. -/
theorem FieldShape.key_of_find? {f : FieldShape α} {fields : Fields} {key : String} {v : Value}
    (h : f.find? fields = some (key, v)) : f.key = key ∨ f.otherKey = key :=
  (FieldShape.find?_eq_some.mp h).2.imp Eq.symm fun h => h.1.symm

namespace RecordShape.Spelled

variable {r : RecordShape α}

/-- The fields in front of a field and behind it have other spellings. -/
theorem exists_split (hr : r.Spelled) {f : FieldShape α} (hf : f ∈ r.fields) :
    ∃ front back, r.fields = front ++ f :: back ∧ ∀ g ∈ front ++ back, g.Apart f := by
  obtain ⟨front, back, hsplit⟩ := List.append_of_mem hf
  have hapart := hr.apart
  rw [hsplit, List.pairwise_append, List.pairwise_cons] at hapart
  obtain ⟨-, ⟨hback, -⟩, hfront⟩ := hapart
  refine ⟨front, back, hsplit, fun g hg => ?_⟩
  rcases List.mem_append.mp hg with hg | hg
  · exact hfront g hg f List.mem_cons_self
  · obtain ⟨h1, h2, h3, h4⟩ := hback g hg
    exact ⟨h1.symm, h3.symm, h2.symm, h4.symm⟩

/-- A spelling leads to its field. -/
theorem find?_fields (hr : r.Spelled) {f : FieldShape α} (hf : f ∈ r.fields) {key : String}
    (hkey : f.key = key ∨ f.otherKey = key) :
    r.fields.find? (fun g => g.key == key || g.otherKey == key) = some f := by
  obtain ⟨front, back, hsplit, hapart⟩ := hr.exists_split hf
  rw [hsplit, List.find?_append, List.find?_eq_none.mpr, Option.none_or, List.find?_cons_of_pos]
  · simpa using hkey
  · intro g hg
    obtain ⟨h1, h2, h3, h4⟩ := hapart g (List.mem_append_left _ hg)
    rcases hkey with rfl | rfl
    · simp [h1, h3]
    · simp [h2, h4]

end RecordShape.Spelled

end Spellings

namespace Value

variable {targets : List (List Part)}

/-- Only the ways to the value of a key matter to it. -/
theorem get?_pruneEntries {es : List (Value × Value)} {key : String} :
    Fields.get? (pruneEntries targets es) key =
      if (inside targets (.key key)).contains [] then none
      else (Fields.get? es key).map (prune (inside targets (.key key))) := by
  induction es with
  | nil => simp [pruneEntries, Fields.get?]
  | cons e es ih =>
    obtain ⟨k, v⟩ := e
    cases k with
    | str k =>
      rw [pruneEntries, Fields.get?_cons]
      by_cases hk : k = key
      · subst hk
        -- a later entry with the same key is dropped as well
        split
        · rename_i hdropped
          rw [ih, if_pos hdropped]
        · simp [Fields.get?_cons, isString]
      · split <;> simp [Fields.get?_cons, isString, hk, ih]
    | _ =>
      rw [pruneEntries, Fields.get?_cons, Fields.get?_cons, ih]
      · simp [isString]
      · simp

/-- The ways that start with another step do not matter to a value. -/
theorem inside_filter {p : Part} {keep : List Part → Bool}
    (h : ∀ rest, keep (p :: rest) = true) :
    inside (targets.filter keep) p = inside targets p := by
  unfold inside
  rw [List.filterMap_filter]
  refine List.filterMap_congr fun target _ => ?_
  cases target with
  | nil => split <;> rfl
  | cons q rest =>
    by_cases hq : q = p
    · rw [hq, if_pos (h rest)]
    · simp [hq]

/-- A list without those of its items that are no strings. -/
theorem pruneItems_eq_filter {i : ℕ} {xs : List Value}
    (h : ∀ e ∈ xs.zipIdx i, [.index e.2] ∈ targets ↔ e.1.isStr = false) :
    pruneItems targets i xs = xs.filter Value.isStr := by
  induction xs generalizing i with
  | nil => rfl
  | cons x xs ih =>
    rw [List.zipIdx_cons, List.forall_mem_cons] at h
    obtain ⟨hx, hxs⟩ := h
    have hdropped : (inside targets (.index i)).contains [] = !x.isStr := by
      rw [Bool.eq_iff_iff, List.contains_iff_mem, mem_inside, hx, Bool.not_eq_true']
    rw [pruneItems, ih hxs, hdropped]
    cases x <;> rfl

end Value

namespace Cleaning

variable {r : RecordShape Shape} {fields : Fields}

/-- The values that a round drops. -/
def dropped (r : RecordShape Shape) (fields : Fields) : List Drop :=
  innermost (drops r fields (r.check fields))

/-- The mapping that a round leaves. -/
def kept (r : RecordShape Shape) (fields : Fields) : Fields :=
  Value.pruneEntries ((dropped r fields).map Drop.target) fields

/-- What every round preserves holds of the cleaned mapping, all of whose values fit. -/
theorem cleanFrom_induction {P : List FieldIssue → Fields → Prop}
    (hround : ∀ issues fields, fields.HasStringKeys → P issues fields →
      P (issues ++ (dropped r fields).map Drop.issue) (kept r fields))
    {issues issues' : List FieldIssue} {fields clean : Fields} (hkeys : fields.HasStringKeys)
    (hstart : P issues fields) (h : cleanFrom r issues fields = .ok (clean, issues')) :
    P issues' clean ∧ r.check clean = [] := by
  -- along the rounds; the last mapping is the one without errors
  induction issues, fields using cleanFrom.induct r with
  | case1 issues fields hcheck =>
    rw [cleanFrom, hcheck] at h
    cases h
    exact ⟨hstart, hcheck⟩
  | case2 issues fields hcheck ds rest hsmaller ih =>
    rw [cleanFrom] at h
    split at h
    · rename_i hnil
      exact absurd hnil hcheck
    · rw [dif_pos hsmaller] at h
      exact ih (hasStringKeys_pruneEntries hkeys _) (hround issues fields hkeys hstart) h
  | case3 issues fields hcheck ds rest hsmaller =>
    rw [cleanFrom] at h
    split at h
    · rename_i hnil
      exact absurd hnil hcheck
    · rw [dif_neg hsmaller] at h
      cases h

section Candidates

/-- The value to drop for an error inside the value of a key. -/
def dropAt (key : String) (v : Value) (e : FieldError) : Drop :=
  let target := targetFrom v [.key key] [.key key] e.location
  let shown := if target.length == 1 then .key key :: e.location else target
  ⟨target, ⟨key, Part.dotted shown, e.kind.message⟩⟩

/-- The values to drop for the errors of a field. -/
def fieldDrops (fields : Fields) (f : FieldShape Shape) : List Drop :=
  match f.find? fields with
  | some (key, v) => (f.shape.errors v).map (dropAt key v)
  | none => []

/-- The first of several drops for each value. -/
def distinct (ds : List Drop) : List Drop :=
  ds.foldl (fun ds d => if ds.any fun x => x.target == d.target then ds else ds ++ [d]) []

theorem distinct_concat (ds : List Drop) (d : Drop) :
    distinct (ds ++ [d]) = if (distinct ds).any fun x => x.target == d.target then distinct ds
      else distinct ds ++ [d] := by
  rw [distinct, List.foldl_append]
  rfl

theorem distinct_sublist (ds : List Drop) : (distinct ds).Sublist ds := by
  induction ds using List.reverseRecOn with
  | nil => exact .refl _
  | append_singleton ds d ih =>
    rw [distinct_concat]
    split
    · exact ih.trans (List.sublist_append_left ds [d])
    · exact ih.append (.refl [d])

/-- Drops of different values are all kept. -/
theorem distinct_eq_self {ds : List Drop} (h : ds.Pairwise fun a b => a.target ≠ b.target) :
    distinct ds = ds := by
  induction ds using List.reverseRecOn with
  | nil => rfl
  | append_singleton ds d ih =>
    obtain ⟨hds, -, hd⟩ := List.pairwise_append.mp h
    rw [distinct_concat, ih hds, if_neg]
    rw [List.any_eq_true]
    rintro ⟨x, hx, heq⟩
    exact hd x hx d (List.mem_singleton_self d) (beq_iff_eq.mp heq)

/-- The key under which a field is found is the one that an error at it is about. -/
theorem topKey?_of_find? (hr : r.Spelled) {f : FieldShape Shape} (hf : f ∈ r.fields)
    {key : String} {v : Value} (hfind : f.find? fields = some (key, v)) :
    topKey? r fields key = some key := by
  obtain ⟨hv, hspelling⟩ := FieldShape.find?_eq_some.mp hfind
  have hheld : fields.contains key = true := by rw [Fields.contains_eq, hv, Option.isSome_some]
  unfold topKey?
  rw [hr.find?_fields hf (FieldShape.key_of_find? hfind)]
  dsimp only
  -- the spelling that wins is the first in order, so both look for it first
  rw [if_pos (hr.key_le f hf)]
  rcases hspelling with rfl | ⟨rfl, hnone⟩
  · rw [List.find?_cons_of_pos hheld]
  · rw [List.find?_cons_of_neg, List.find?_cons_of_pos hheld]
    rw [Fields.contains_eq, hnone]
    exact Bool.false_ne_true

/-- For an error of a field the value is dropped that lies at the error inside the field. -/
theorem dropFor?_of_find? (hr : r.Spelled) {f : FieldShape Shape} (hf : f ∈ r.fields)
    {key : String} {v : Value} (hfind : f.find? fields = some (key, v)) (e : FieldError) :
    dropFor? r fields { e with location := .key key :: e.location } = some (dropAt key v e) := by
  unfold dropFor?
  dsimp only
  rw [show (Part.key key).text = key from rfl, topKey?_of_find? hr hf hfind]
  simp only [Option.bind_eq_bind, Option.bind_some, (FieldShape.find?_eq_some.mp hfind).1]
  rfl

/-- The values to drop are those of the fields, each once. -/
theorem drops_check (hr : r.Spelled) (hkeys : fields.HasStringKeys) :
    drops r fields (r.check fields) = distinct (r.fields.flatMap (fieldDrops fields)) := by
  have hdrops : (r.check fields).filterMap (dropFor? r fields) =
      r.fields.flatMap (fieldDrops fields) := by
    unfold RecordShape.check RecordShape.fieldErrors
    rw [keyErrors_eq_nil hkeys, List.append_nil, List.filterMap_flatMap]
    refine List.flatMap_congr fun f hf => ?_
    unfold fieldDrops
    cases hfind : f.find? fields with
    | none => rfl
    | some found =>
      obtain ⟨key, v⟩ := found
      dsimp only
      rw [FieldError.under, List.filterMap_map, ← List.filterMap_eq_map]
      exact List.filterMap_congr fun e _ => dropFor?_of_find? hr hf hfind e
  rw [← hdrops, distinct, List.foldl_filterMap]
  unfold drops
  congr 1
  funext ds e
  cases dropFor? r fields e <;> rfl

end Candidates

section Under

/-- Whether a drop is about a part of the value of a key. -/
def Drop.isUnder (key : String) (d : Drop) : Bool :=
  d.target.head? == some (.key key)

/-- Following a location does not leave the key. -/
theorem exists_targetFrom (p : Part) (current : Value) (path target rest : List Part) :
    ∃ tail, targetFrom current (p :: path) (p :: target) rest = p :: tail := by
  induction rest generalizing current path target with
  | nil => exact ⟨target, rfl⟩
  | cons part rest ih =>
    cases part with
    | index i =>
      cases current with
      | list xs =>
        rw [targetFrom]
        split
        · exact ih ..
        · exact ih ..
      | _ => exact ih ..
    | key k =>
      cases current with
      | map es =>
        rw [targetFrom]
        split
        · exact ih ..
        · exact ih ..
      | _ => exact ih ..

/-- What is dropped for a field lies under the key that the issue names, which is the one under which
the field is found. -/
theorem exists_of_mem_fieldDrops {f : FieldShape Shape} {d : Drop}
    (h : d ∈ fieldDrops fields f) :
    ∃ key v tail, f.find? fields = some (key, v) ∧ d.issue.field = key ∧
      d.target = .key key :: tail := by
  unfold fieldDrops at h
  split at h
  · rename_i key v hfind
    obtain ⟨e, -, rfl⟩ := List.mem_map.mp h
    obtain ⟨tail, htail⟩ := exists_targetFrom (.key key) v [] [] e.location
    exact ⟨key, v, tail, hfind, rfl, htail⟩
  · cases h

/-- What is dropped for a field lies under the key under which the field is found. -/
theorem isUnder_of_mem_fieldDrops {f : FieldShape Shape} {d : Drop}
    (h : d ∈ fieldDrops fields f) (key : String) :
    d.isUnder key = (d.issue.field == key) ∧
      (d.isUnder key = true → f.key = key ∨ f.otherKey = key) := by
  obtain ⟨key', v, tail, hfind, hfield, htarget⟩ := exists_of_mem_fieldDrops h
  have hunder : d.isUnder key = (d.issue.field == key) := by
    unfold Drop.isUnder
    rw [htarget, hfield, List.head?_cons, Bool.eq_iff_iff]
    simp
  refine ⟨hunder, fun hkey => ?_⟩
  rw [hunder, hfield, beq_iff_eq] at hkey
  exact hkey ▸ FieldShape.key_of_find? hfind

/-- Of the drops of all fields those under a key of a field are the ones of the field. -/
theorem filter_flatMap_fieldDrops (hr : r.Spelled) {f : FieldShape Shape} (hf : f ∈ r.fields)
    {key : String} (hkey : f.key = key ∨ f.otherKey = key) :
    (r.fields.flatMap (fieldDrops fields)).filter (Drop.isUnder key) =
      (fieldDrops fields f).filter (Drop.isUnder key) := by
  obtain ⟨front, back, hsplit, hapart⟩ := hr.exists_split hf
  -- the drops of the other fields lie under other keys
  have hother : ∀ gs : List (FieldShape Shape), (∀ g ∈ gs, g.Apart f) →
      (gs.flatMap (fieldDrops fields)).filter (Drop.isUnder key) = [] := by
    intro gs hgs
    refine List.filter_eq_nil_iff.mpr fun d hd hunder => ?_
    obtain ⟨g, hg, hd⟩ := List.mem_flatMap.mp hd
    obtain ⟨h1, h2, h3, h4⟩ := hgs g hg
    rcases (isUnder_of_mem_fieldDrops hd key).2 hunder with rfl | rfl
    · exact hkey.elim (fun h => h1 h.symm) fun h => h2 h.symm
    · exact hkey.elim (fun h => h3 h.symm) fun h => h4 h.symm
  rw [hsplit, List.flatMap_append, List.flatMap_cons, List.filter_append, List.filter_append,
    hother front fun g hg => hapart g (List.mem_append_left _ hg),
    hother back fun g hg => hapart g (List.mem_append_right _ hg), List.nil_append,
    List.append_nil]

/-- Whether a value is dropped twice is settled under its key. -/
theorem filter_distinct (key : String) (ds : List Drop) :
    (distinct ds).filter (Drop.isUnder key) = distinct (ds.filter (Drop.isUnder key)) := by
  induction ds using List.reverseRecOn with
  | nil => rfl
  | append_singleton ds d ih =>
    rw [distinct_concat, List.filter_append]
    cases hd : d.isUnder key with
    | true =>
      -- a drop of the same value lies under the same key
      have hany : ((distinct ds).filter (Drop.isUnder key)).any (fun x => x.target == d.target) =
          (distinct ds).any fun x => x.target == d.target := by
        rw [List.any_filter]
        refine List.any_congr rfl fun x => ?_
        cases hx : x.target == d.target with
        | false => rw [Bool.and_false]
        | true =>
          rw [Bool.and_true, Drop.isUnder, beq_iff_eq.mp hx]
          exact hd
      rw [List.filter_cons_of_pos hd, List.filter_nil, distinct_concat, ← ih, hany]
      split
      · rfl
      · rw [List.filter_append, List.filter_cons_of_pos hd, List.filter_nil]
    | false =>
      have hd : ¬d.isUnder key = true := by
        rw [hd]
        exact Bool.false_ne_true
      rw [List.filter_cons_of_neg hd, List.filter_nil, List.append_nil, ← ih]
      split
      · rfl
      · rw [List.filter_append, List.filter_cons_of_neg hd, List.filter_nil, List.append_nil]

/-- Whether another value to be dropped lies inside a value is settled under its key. -/
theorem filter_innermost (key : String) (ds : List Drop) :
    (innermost ds).filter (Drop.isUnder key) = innermost (ds.filter (Drop.isUnder key)) := by
  unfold innermost
  rw [List.filter_filter, List.filter_filter]
  refine List.filter_congr fun d _ => ?_
  cases hd : d.isUnder key with
  | false => rw [Bool.false_and, Bool.and_false]
  | true =>
    rw [Bool.true_and, Bool.and_true, List.any_filter]
    congr 1
    refine List.any_congr rfl fun x => ?_
    cases hx : x.target != d.target && d.target.isPrefixOf x.target with
    | false => rw [Bool.and_false]
    | true =>
      -- what lies inside a value lies under the same key
      rw [Bool.and_eq_true, List.isPrefixOf_iff_prefix] at hx
      obtain ⟨rest, hrest⟩ := hx.2
      rw [Bool.and_true, eq_comm]
      unfold Drop.isUnder at hd ⊢
      rw [← hrest, List.head?_append, beq_iff_eq.mp hd]
      simp

/-- What a round drops lies under the key that its issue names. -/
theorem isUnder_of_mem_dropped (hr : r.Spelled) (hkeys : fields.HasStringKeys) {d : Drop}
    (h : d ∈ dropped r fields) (key : String) : d.isUnder key = (d.issue.field == key) := by
  unfold dropped at h
  rw [drops_check hr hkeys] at h
  obtain ⟨f, -, hd⟩ := List.mem_flatMap.mp ((distinct_sublist _).subset (List.mem_of_mem_filter h))
  exact (isUnder_of_mem_fieldDrops hd key).1

/-- What a round drops under the key of a field are the innermost of the different values to be
dropped for its errors. -/
theorem filter_dropped (hr : r.Spelled) (hkeys : fields.HasStringKeys) {f : FieldShape Shape}
    (hf : f ∈ r.fields) {key : String} {v : Value} (hfind : f.find? fields = some (key, v)) :
    (dropped r fields).filter (fun d => d.issue.field == key) =
      innermost (distinct ((f.shape.errors v).map (dropAt key v))) := by
  have hfield : ((fieldDrops fields f).filter (Drop.isUnder key)) =
      (f.shape.errors v).map (dropAt key v) := by
    rw [List.filter_eq_self.mpr, fieldDrops, hfind]
    intro d hd
    obtain ⟨key', v', tail, hfind', hfield, -⟩ := exists_of_mem_fieldDrops hd
    rw [hfind] at hfind'
    cases hfind'
    rw [(isUnder_of_mem_fieldDrops hd key).1, hfield, beq_self_eq_true]
  rw [← List.filter_congr fun d hd => isUnder_of_mem_dropped hr hkeys hd key, dropped,
    drops_check hr hkeys, filter_innermost, filter_distinct,
    filter_flatMap_fieldDrops hr hf (FieldShape.key_of_find? hfind), hfield]

/-- The value under a key after a round: only the drops whose issues name the key matter. -/
theorem get?_kept (hr : r.Spelled) (hkeys : fields.HasStringKeys) {key : String} {ds : List Drop}
    (hds : (dropped r fields).filter (fun d => d.issue.field == key) = ds) :
    Fields.get? (kept r fields) key =
      if (Value.inside (ds.map Drop.target) (.key key)).contains [] then none
      else (fields.get? key).map (Value.prune (Value.inside (ds.map Drop.target) (.key key))) := by
  have htargets : (ds.map Drop.target) =
      ((dropped r fields).map Drop.target).filter fun t => t.head? == some (.key key) := by
    rw [← hds, List.filter_map,
      ← List.filter_congr fun d hd => isUnder_of_mem_dropped hr hkeys hd key]
    rfl
  rw [kept, Value.get?_pruneEntries, htargets,
    Value.inside_filter fun rest => by rw [List.head?_cons, beq_self_eq_true]]

end Under

section Rounds

variable {f : FieldShape Shape} {key : String} {v : Value}

/-- A key that no issue of a round names keeps its value. -/
theorem get?_kept_of_forall_ne (hr : r.Spelled) (hkeys : fields.HasStringKeys)
    (h : ∀ d ∈ dropped r fields, d.issue.field ≠ key) :
    Fields.get? (kept r fields) key = fields.get? key := by
  have hds : (dropped r fields).filter (fun d => d.issue.field == key) = [] :=
    List.filter_eq_nil_iff.mpr fun d hd => by simp [h d hd]
  rw [get?_kept hr hkeys hds]
  cases fields.get? key <;> simp [Value.inside, Value.prune_nil]

/-- A field is found where it was, if its value was not dropped. -/
theorem find?_kept (hr : r.Spelled) (hkeys : fields.HasStringKeys)
    (hfind : f.find? fields = some (key, v)) {w : Value}
    (hkept : Fields.get? (kept r fields) key = some w) :
    f.find? (kept r fields) = some (key, w) := by
  obtain ⟨-, hspelling⟩ := FieldShape.find?_eq_some.mp hfind
  refine FieldShape.find?_eq_some.mpr ⟨hkept, hspelling.imp_right fun ⟨hkey, hnone⟩ => ⟨hkey, ?_⟩⟩
  rw [get?_kept hr hkeys rfl, hnone, Option.map_none, ite_self]

/-- What a round drops lies in the value of a field that does not fit. -/
theorem exists_of_mem_dropped (hr : r.Spelled) (hkeys : fields.HasStringKeys) {d : Drop}
    (h : d ∈ dropped r fields) :
    ∃ f ∈ r.fields, ∃ v, f.find? fields = some (d.issue.field, v) ∧ f.shape.errors v ≠ [] := by
  unfold dropped at h
  rw [drops_check hr hkeys] at h
  obtain ⟨f, hf, hd⟩ :=
    List.mem_flatMap.mp ((distinct_sublist _).subset (List.mem_of_mem_filter h))
  obtain ⟨key, v, tail, hfind, hfield, -⟩ := exists_of_mem_fieldDrops hd
  refine ⟨f, hf, v, hfield ▸ hfind, fun hnil => ?_⟩
  rw [fieldDrops, hfind] at hd
  dsimp only at hd
  rw [hnil] at hd
  cases hd

/-- The errors of a list are those of its elements. -/
theorem mem_elementErrors {errors : Value → List FieldError} {xs : List Value} {e : FieldError} :
    e ∈ Shape.elementErrors errors xs ↔ ∃ i x, xs[i]? = some x ∧
      ∃ inner ∈ errors x, { inner with location := .index i :: inner.location } = e := by
  unfold Shape.elementErrors FieldError.under
  rw [List.mem_flatMap]
  constructor
  · rintro ⟨⟨x, i⟩, hx, he⟩
    exact ⟨i, x, List.mem_zipIdx_iff_getElem?.mp hx, List.mem_map.mp he⟩
  · rintro ⟨i, x, hx, he⟩
    exact ⟨(x, i), List.mem_zipIdx_iff_getElem?.mpr hx, List.mem_map.mpr he⟩

/-- A list has no errors if its elements have none. -/
theorem elementErrors_eq_nil {errors : Value → List FieldError} {xs : List Value} :
    Shape.elementErrors errors xs = [] ↔ ∀ x ∈ xs, errors x = [] := by
  constructor
  · intro h x hx
    obtain ⟨i, hi⟩ := List.mem_iff_getElem?.mp hx
    refine List.eq_nil_iff_forall_not_mem.mpr fun e he => ?_
    have hmem := mem_elementErrors.mpr ⟨i, x, hi, e, he, rfl⟩
    rw [h] at hmem
    cases hmem
  · refine fun h => List.eq_nil_iff_forall_not_mem.mpr fun e he => ?_
    obtain ⟨i, x, hx, inner, hinner, -⟩ := mem_elementErrors.mp he
    rw [h x (List.mem_of_getElem? hx)] at hinner
    cases hinner

/-- The elements of a list that are no strings, with their indices. -/
def strays (xs : List Value) : List (Value × ℕ) :=
  xs.zipIdx.filter fun e => !e.1.isStr

/-- The issues of a list of strings: one for each element that is no string, at its index. -/
def textIssues (key : String) (xs : List Value) : List FieldIssue :=
  (strays xs).map fun e =>
    ⟨key, key ++ "." ++ toString e.2, FieldErrorKind.stringType.message⟩

/-- A list has no strays if all its elements are strings. -/
theorem strays_eq_nil {xs : List Value} : strays xs = [] ↔ ∀ x ∈ xs, x.isStr = true := by
  rw [strays, List.filter_eq_nil_iff]
  constructor
  · intro h x hx
    obtain ⟨i, hi⟩ := List.mem_iff_getElem?.mp hx
    simpa using h (x, i) (List.mem_zipIdx_iff_getElem?.mpr hi)
  · rintro h ⟨x, i⟩ hx
    simpa using h x (List.mem_of_getElem? (List.mem_zipIdx_iff_getElem?.mp hx))

/-- The errors of a list of strings are those of the elements that are no strings. -/
theorem elementErrors_textErrors (xs : List Value) :
    Shape.elementErrors Shape.textErrors xs =
      (strays xs).map fun e => ⟨.stringType, [.index e.2], e.1⟩ := by
  unfold Shape.elementErrors strays
  induction xs.zipIdx with
  | nil => rfl
  | cons e es ih =>
    obtain ⟨x, i⟩ := e
    rw [List.flatMap_cons, ih]
    cases x <;> rfl

/-- What is dropped for the elements of a list that are no strings. -/
def strayDrops (key : String) (xs : List Value) : List Drop :=
  (strays xs).map fun e => ⟨[.key key, .index e.2],
    ⟨key, key ++ "." ++ toString e.2, FieldErrorKind.stringType.message⟩⟩

theorem map_issue_strayDrops (key : String) (xs : List Value) :
    (strayDrops key xs).map Drop.issue = textIssues key xs := by
  rw [strayDrops, List.map_map]
  rfl

/-- For the error of an element that is no string the element is dropped. -/
theorem map_dropAt_texts (key : String) (xs : List Value) :
    (LeafShape.texts.errors (.list xs)).map (dropAt key (.list xs)) = strayDrops key xs := by
  show (Shape.elementErrors Shape.textErrors xs).map _ = _
  rw [elementErrors_textErrors, List.map_map]
  refine List.map_congr_left fun e he => ?_
  have helement : xs[e.2]? = some e.1 :=
    List.mem_zipIdx_iff_getElem?.mp (List.mem_of_mem_filter he)
  have htarget : targetFrom (.list xs) [.key key] [.key key] [.index e.2] =
      [.key key, .index e.2] := by
    simp only [targetFrom, helement, List.cons_append, List.nil_append]
  simp only [Function.comp_apply, dropAt, htarget]
  rfl

/-- The elements that are no strings are different ones. -/
theorem distinct_strayDrops (key : String) (xs : List Value) :
    distinct (strayDrops key xs) = strayDrops key xs := by
  have hindices : ((strays xs).map Prod.snd).Nodup :=
    (List.filter_sublist.map Prod.snd).nodup (List.nodup_zipIdx_map_snd xs)
  refine distinct_eq_self (List.pairwise_map.mpr ?_)
  refine (List.pairwise_map.mp hindices).imp fun hne heq => hne ?_
  simpa using heq

/-- No element of a list lies inside another one. -/
theorem innermost_strayDrops (key : String) (xs : List Value) :
    innermost (strayDrops key xs) = strayDrops key xs := by
  refine List.filter_eq_self.mpr fun d hd => ?_
  rw [Bool.not_eq_true', List.any_eq_false]
  intro x hx hinside
  obtain ⟨e, -, rfl⟩ := List.mem_map.mp hd
  obtain ⟨e', -, rfl⟩ := List.mem_map.mp hx
  rw [Bool.and_eq_true, bne_iff_ne, List.isPrefixOf_iff_prefix] at hinside
  -- both ways have two steps
  exact hinside.1 (hinside.2.eq_of_length rfl).symm

/-- The ways from a list to what is dropped of it. -/
theorem mem_inside_strayDrops {xs : List Value} {rest : List Part} :
    rest ∈ Value.inside ((strayDrops key xs).map Drop.target) (.key key) ↔
      ∃ e ∈ strays xs, [.index e.2] = rest := by
  rw [Value.mem_inside, strayDrops, List.map_map, List.mem_map]
  simp

/-- An index is that of a stray if the element at the index is no string. -/
theorem exists_stray_iff {xs : List Value} {x : Value} {i : ℕ} (hx : (x, i) ∈ xs.zipIdx) :
    (∃ e ∈ strays xs, e.2 = i) ↔ x.isStr = false := by
  constructor
  · rintro ⟨⟨y, j⟩, hy, rfl⟩
    obtain ⟨hy, hstray⟩ := List.mem_filter.mp hy
    obtain rfl : y = x := Option.some.inj
      ((List.mem_zipIdx_iff_getElem?.mp hy).symm.trans (List.mem_zipIdx_iff_getElem?.mp hx))
    simpa using hstray
  · intro hstray
    exact ⟨(x, i), List.mem_filter.mpr ⟨hx, by rw [hstray]; rfl⟩, rfl⟩

/-- A round leaves of a list of strings what is a string, and reports the rest. -/
theorem round_texts (hr : r.Spelled) (hkeys : fields.HasStringKeys) (hf : f ∈ r.fields)
    (hshape : f.shape = .leaf .texts) {xs : List Value}
    (hfind : f.find? fields = some (key, .list xs)) :
    f.find? (kept r fields) = some (key, .list (xs.filter Value.isStr)) ∧
      (dropped r fields).filter (fun d => d.issue.field == key) = strayDrops key xs := by
  have hds : (dropped r fields).filter (fun d => d.issue.field == key) = strayDrops key xs := by
    have hdrops : (f.shape.errors (.list xs)).map (dropAt key (.list xs)) = strayDrops key xs := by
      rw [hshape]
      exact map_dropAt_texts key xs
    rw [filter_dropped hr hkeys hf hfind, hdrops, distinct_strayDrops, innermost_strayDrops]
  refine ⟨find?_kept hr hkeys hfind ?_, hds⟩
  rw [get?_kept hr hkeys hds, (FieldShape.find?_eq_some.mp hfind).1, if_neg, Option.map_some,
    Value.prune, Value.pruneItems_eq_filter]
  · rintro ⟨x, i⟩ hx
    rw [mem_inside_strayDrops, ← exists_stray_iff hx]
    simp only [List.cons.injEq, Part.index.injEq, and_true]
  · -- the list itself is not dropped
    rw [List.contains_iff_mem, mem_inside_strayDrops]
    rintro ⟨e, -, heq⟩
    cases heq

end Rounds

/-- The values of a mapping without errors fit their fields. -/
theorem errors_eq_nil_of_check {α : Type} {r : RecordShape α} {errors : α → Value → List FieldError}
    {f : FieldShape α} {key : String} {v : Value} (h : r.fieldErrors errors fields = [])
    (hf : f ∈ r.fields) (hfind : f.find? fields = some (key, v)) : errors f.shape v = [] := by
  have hfield := List.flatMap_eq_nil_iff.mp (List.append_eq_nil_iff.mp h).1 f hf
  rw [hfind] at hfield
  exact List.map_eq_nil_iff.mp hfield

section Cleaned

variable {clean : Fields} {issues : List FieldIssue} {f : FieldShape Shape} {key : String}

/-- What has been reported accounts for the difference between a mapping and what is left of it: a
key that no issue names has its value, and every issue names a key of a field whose value in the
mapping does not fit. -/
def Explains (r : RecordShape Shape) (fields : Fields) (issues : List FieldIssue)
    (left : Fields) : Prop :=
  (∀ key, (∀ i ∈ issues, i.field ≠ key) → left.get? key = fields.get? key) ∧
    ∀ i ∈ issues, ∃ f ∈ r.fields, (f.key = i.field ∨ f.otherKey = i.field) ∧
      ∃ v, fields.get? i.field = some v ∧ f.shape.errors v ≠ []

/-- A round reports all that it changes. -/
theorem Explains.round (hr : r.Spelled) {left : Fields} (hkeys : left.HasStringKeys)
    (h : Explains r fields issues left) :
    Explains r fields (issues ++ (dropped r left).map Drop.issue) (kept r left) := by
  obtain ⟨hkept, hnamed⟩ := h
  constructor
  · intro key hne
    obtain ⟨hbefore, hround⟩ := List.forall_mem_append.mp hne
    rw [get?_kept_of_forall_ne hr hkeys fun d hd => hround _ (List.mem_map_of_mem hd),
      hkept key hbefore]
  · intro i hi
    rcases List.mem_append.mp hi with hi | hi
    · exact hnamed i hi
    · obtain ⟨d, hd, rfl⟩ := List.mem_map.mp hi
      by_cases hbefore : ∀ i ∈ issues, i.field ≠ d.issue.field
      · -- the value is still the one of the mapping when the first issue names its key
        obtain ⟨f, hf, v, hfind, hmisfit⟩ := exists_of_mem_dropped hr hkeys hd
        refine ⟨f, hf, FieldShape.key_of_find? hfind, v, ?_, hmisfit⟩
        rw [← hkept _ hbefore, (FieldShape.find?_eq_some.mp hfind).1]
      · push Not at hbefore
        obtain ⟨i, hi, hfield⟩ := hbefore
        exact hfield ▸ hnamed i hi

/-- What cleaning reports accounts for what it changes, and all values that it leaves fit. -/
theorem explains_clean (hr : r.Spelled) (hkeys : fields.HasStringKeys)
    (h : Cleaning.clean r fields = .ok (clean, issues)) :
    Explains r fields issues clean ∧ r.check clean = [] :=
  cleanFrom_induction (P := Explains r fields) (fun _ _ hkeys' hP => hP.round hr hkeys') hkeys
    ⟨fun _ _ => rfl, List.forall_mem_nil _⟩ h

/-- What is left of a list of strings under a key: a list with the same strings, in which the elements
that are no strings are those that have not been reported. -/
def LeavesTexts (f : FieldShape Shape) (key : String) (xs : List Value) (issues : List FieldIssue)
    (left : Fields) : Prop :=
  ∃ ys, f.find? left = some (key, .list ys) ∧ ys.filter Value.isStr = xs.filter Value.isStr ∧
    issues.filter (fun i => i.field == key) ++ textIssues key ys = textIssues key xs

/-- A round reports the elements that it drops. -/
theorem LeavesTexts.round (hr : r.Spelled) (hf : f ∈ r.fields) (hshape : f.shape = .leaf .texts)
    {xs : List Value} {left : Fields} (hkeys : left.HasStringKeys)
    (h : LeavesTexts f key xs issues left) :
    LeavesTexts f key xs (issues ++ (dropped r left).map Drop.issue) (kept r left) := by
  obtain ⟨ys, hfind, hstrings, hreported⟩ := h
  obtain ⟨hfound, hdropped⟩ := round_texts hr hkeys hf hshape hfind
  have hissues : ((dropped r left).map Drop.issue).filter (fun i => i.field == key) =
      textIssues key ys := by
    rw [List.filter_map, ← map_issue_strayDrops, ← hdropped]
    rfl
  -- a round drops them all, so that none is left to be reported
  have hrest : textIssues key (ys.filter Value.isStr) = [] := by
    rw [textIssues, strays_eq_nil.mpr fun y hy => (List.mem_filter.mp hy).2, List.map_nil]
  refine ⟨_, hfound, ?_, ?_⟩
  · rw [List.filter_filter, ← hstrings]
    simp only [Bool.and_self]
  · rw [List.filter_append, hissues, hrest, List.append_nil, hreported]

/-- Of a list of strings what is a string is left, in its order; one issue is about each element
that is none. -/
theorem find?_clean_texts (hr : r.Spelled) (hkeys : fields.HasStringKeys)
    (h : Cleaning.clean r fields = .ok (clean, issues)) (hf : f ∈ r.fields)
    (hshape : f.shape = .leaf .texts) {xs : List Value}
    (hfind : f.find? fields = some (key, .list xs)) :
    f.find? clean = some (key, .list (xs.filter Value.isStr)) ∧
      issues.filter (fun i => i.field == key) = textIssues key xs := by
  obtain ⟨⟨ys, hfound, hstrings, hreported⟩, hcheck⟩ :=
    cleanFrom_induction (P := LeavesTexts f key xs)
      (fun _ _ hkeys' hP => hP.round hr hf hshape hkeys') hkeys ⟨xs, hfind, rfl, rfl⟩ h
  -- the list that is left fits, so all of its elements are strings
  have hfits : f.shape.errors (.list ys) = [] := errors_eq_nil_of_check hcheck hf hfound
  have hstrays : strays ys = [] := by
    rw [hshape] at hfits
    have hfits : Shape.elementErrors Shape.textErrors ys = [] := hfits
    rwa [elementErrors_textErrors, List.map_eq_nil_iff] at hfits
  rw [textIssues, hstrays, List.map_nil, List.append_nil] at hreported
  rw [List.filter_eq_self.mpr (strays_eq_nil.mp hstrays)] at hstrings
  exact ⟨hstrings ▸ hfound, hreported⟩

end Cleaned

end Cleaning

end AgentPackage
