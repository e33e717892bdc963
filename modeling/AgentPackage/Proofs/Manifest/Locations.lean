import AgentPackage.Proofs.Manifest.Misfits
import AgentPackage.Proofs.Manifest.Toolsets

/-!
# Locations of issues

An issue of a manifest tells the way to what is wrong. One round of cleaning settles the value of a
field, so that what is told of it is told of the mapping as it was written: each way leads to a value
that does not fit its place, and no two issues tell the same way. Only an object in a list of
toolsets may need another round, in which the indices are those of what is left of the list.

## Main definitions

* `Cleaning.told`: the way that is told of an error;
* `Manifest.isWrongTwice`: an object in a list of toolsets may need more than one round;
* `Manifest.IsSteady`: what is reported of a key is that of one round;
* `Cleaning.Settles`: what has been reported of a key is nothing, or that of one round.

## Main results

* `Cleaning.check_eq_nil`: a mapping has no errors exactly if it fits the manifest;
* `Cleaning.misfitAt_told`: what is told of an error leads to a value that does not fit its place;
* `Cleaning.errors_prune`: one round settles the value of a field;
* `Cleaning.pairwise_fieldIssues`: the issues of a field tell different ways;
* `Manifest.Kind.exists_located`: the locations of the issues of a manifest that is loaded.
-/

namespace AgentPackage

namespace Cleaning

open Manifest

section Errors

variable {v : Value} {e : FieldError} {inner : Fields}

/-- A value has no errors exactly if it fits a field of a record inside a manifest. -/
theorem leafErrors_eq_nil {l : LeafShape} (hv : v.IsJson) : l.errors v = [] ↔ l.Fits v := by
  cases l with
  | text =>
    cases hv with
    | null => exact ⟨fun _ => .inl rfl, fun _ => rfl⟩
    | str s => exact ⟨fun _ => .inr rfl, fun _ => rfl⟩
    | _ => exact ⟨fun h => (by cases h), fun h => by rcases h with h | h <;> cases h⟩
  | texts =>
    cases hv with
    | null => exact ⟨fun _ => .inl rfl, fun _ => rfl⟩
    | @list xs hxs =>
      show Shape.elementErrors Shape.textErrors xs = [] ↔ _
      rw [elementErrors_textErrors, List.map_eq_nil_iff, strays_eq_nil]
      refine ⟨fun h => .inr ⟨xs, rfl, h⟩, fun h => ?_⟩
      rcases h with h | ⟨ys, hys, h⟩
      · cases h
      · cases hys
        exact h
    | _ => exact ⟨fun h => (by cases h), fun h => by rcases h with h | ⟨_, h, -⟩ <;> cases h⟩

/-- The fields of a mapping have no errors exactly if their values fit. -/
theorem fieldErrors_eq_nil {α : Type} {r : RecordShape α} {errors : α → Value → List FieldError}
    {fits : α → Value → Prop} (hv : (Value.map inner).IsJson)
    (hfits : ∀ f ∈ r.fields, ∀ w : Value, w.IsJson → (errors f.shape w = [] ↔ fits f.shape w)) :
    r.fieldErrors errors inner = [] ↔
      ∀ f ∈ r.fields, ∀ key w, f.find? inner = some (key, w) → fits f.shape w := by
  have hjson : ∀ f ∈ r.fields, ∀ key w, f.find? inner = some (key, w) → w.IsJson :=
    fun f _ key w hfind => hv.of_get? (FieldShape.find?_eq_some.mp hfind).1
  constructor
  · intro h f hf key w hfind
    exact (hfits f hf w (hjson f hf key w hfind)).mp (errors_eq_nil_of_check h hf hfind)
  · refine fun h => List.eq_nil_iff_forall_not_mem.mpr fun e he => ?_
    obtain ⟨f, hf, key, w, hfind, e', he', -⟩ := (mem_fieldErrors hv.hasStringKeys).mp he
    rw [(hfits f hf w (hjson f hf key w hfind)).mpr (h f hf key w hfind)] at he'
    cases he'

/-- A value has no errors exactly if it fits a record inside a manifest. -/
theorem recordErrors_eq_nil {r : RecordShape LeafShape} (hv : v.IsJson) :
    r.errors LeafShape.errors v = [] ↔ r.Fits v := by
  cases v with
  | map inner =>
    have hfields := fieldErrors_eq_nil hv fun (f : FieldShape LeafShape) (_ : f ∈ r.fields) _ hw =>
      leafErrors_eq_nil hw
    refine hfields.trans ⟨fun h => ⟨inner, rfl, h⟩, fun ⟨inner', hinner, h⟩ => ?_⟩
    cases hinner
    exact h
  | _ => exact ⟨fun h => (by cases h), fun ⟨_, h, _⟩ => by cases h⟩

/-- A value has no errors exactly if it fits an element of a list of strings and records. -/
theorem mixedErrors_eq_nil {r : RecordShape LeafShape} (hv : v.IsJson) :
    Shape.mixedErrors r v = [] ↔ (Slot.entry r).Fits v := by
  constructor
  · intro h
    cases v with
    | str s => exact .inl rfl
    | map inner => exact .inr ((recordErrors_eq_nil hv).mp (recordErrors_of_mixedErrors h))
    | _ => cases h
  · intro h
    unfold Shape.mixedErrors
    rcases h with hstr | hrecord
    · rw [if_pos hstr]
    · rw [(recordErrors_eq_nil hv).mpr hrecord]
      exact ite_self _

/-- A value has no errors exactly if it fits a field of a manifest. -/
theorem errors_eq_nil {s : Shape} (hv : v.IsJson) : s.errors v = [] ↔ s.Fits v := by
  cases s with
  | leaf l => exact leafErrors_eq_nil hv
  | mapping =>
    cases hv with
    | null => exact ⟨fun _ => .inl rfl, fun _ => rfl⟩
    | map hkeys => exact ⟨fun _ => .inr rfl, fun _ => textKeyErrors_eq_nil hkeys⟩
    | _ => exact ⟨fun h => (by cases h), fun h => by rcases h with h | h <;> cases h⟩
  | record r =>
    by_cases hnull : v = .null
    · rw [hnull]
      exact ⟨fun _ => .inl rfl, fun _ => rfl⟩
    · have herrors : (Shape.record r).errors v = r.errors LeafShape.errors v := by
        cases v with
        | null => exact absurd rfl hnull
        | _ => rfl
      rw [herrors, recordErrors_eq_nil hv]
      exact ⟨.inr, fun h => h.resolve_left hnull⟩
  | mixed r =>
    cases hv with
    | null => exact ⟨fun _ => .inl rfl, fun _ => rfl⟩
    | @list xs hxs =>
      refine elementErrors_eq_nil.trans ⟨fun h => .inr ⟨xs, rfl, fun x hx => ?_⟩, fun h x hx => ?_⟩
      · exact (mixedErrors_eq_nil (hxs x hx)).mp (h x hx)
      · rcases h with h | ⟨ys, hys, h⟩
        · cases h
        · cases hys
          exact (mixedErrors_eq_nil (hxs x hx)).mpr (h x hx)
    | _ => exact ⟨fun h => (by cases h), fun h => by rcases h with h | ⟨_, h, -⟩ <;> cases h⟩

/-- A mapping has no errors exactly if it fits the manifest. -/
theorem check_eq_nil {r : RecordShape Shape} {fields : Fields} (h : (Value.map fields).IsJson) :
    r.check fields = [] ↔ (Slot.manifest r).Fits (.map fields) := by
  have hfields := fieldErrors_eq_nil h fun (f : FieldShape Shape) (_ : f ∈ r.fields) _ hw =>
    errors_eq_nil hw
  refine hfields.trans ⟨fun h => ⟨fields, rfl, h⟩, fun ⟨fields', hfields', h⟩ => ?_⟩
  cases hfields'
  exact h

/-- What is told of an error of a value: the way to what is dropped, or the location of the error
where the value is dropped as a whole. -/
def told (v : Value) (location : List Part) : List Part :=
  if way v location = [] then location else way v location

theorem told_index {xs : List Value} {x : Value} {i : ℕ} (hx : xs[i]? = some x) (rest : List Part) :
    told (.list xs) (.index i :: rest) = .index i :: way x rest := by
  rw [told, way_index hx, if_neg (List.cons_ne_nil _ _)]

theorem told_key {k : String} (hv : Fields.get? inner k = some v) (rest : List Part) :
    told (.map inner) (.key k :: rest) = .key k :: told v rest := by
  rw [told, told, way_key hv]
  split <;> simp_all

/-- The issue of an error in a field. -/
theorem issue_dropAt (key : String) (v : Value) (e : FieldError) :
    (dropAt key v e).issue =
      ⟨key, Part.dotted (.key key :: told v e.location), e.kind.message⟩ := by
  have htarget : targetFrom v [.key key] [.key key] e.location = .key key :: way v e.location :=
    target_dropAt key v e
  unfold dropAt told
  rw [htarget]
  by_cases hnil : way v e.location = [] <;> simp [hnil]

/-- A stray does not fit its place in a list of strings. -/
theorem not_fits_of_mem_strays {xs : List Value} {s : Value × ℕ} (hs : s ∈ strays xs) :
    xs[s.2]? = some s.1 ∧ ¬ Slot.text.Fits s.1 := by
  obtain ⟨hmem, hstray⟩ := List.mem_filter.mp hs
  refine ⟨List.mem_zipIdx_iff_getElem?.mp hmem, fun hstr => ?_⟩
  have hstr : s.1.isStr = true := hstr
  rw [hstr] at hstray
  cases hstray

/-- What is told of an error of a string or a list of strings leads to a misfit. -/
theorem misfitAt_told_leaf {l : LeafShape} (hv : v.IsJson) (he : e ∈ l.errors v) :
    (Slot.field (.leaf l)).MisfitAt v (told v e.location) := by
  rcases location_of_mem_errors hv he with ⟨hnil, -, -⟩ | ⟨rfl, xs, rfl, s, hs, hlocation⟩
  · rw [hnil]
    refine Slot.misfitAt_nil fun hfits => ?_
    rw [(leafErrors_eq_nil hv).mpr hfits] at he
    cases he
  · obtain ⟨helement, hmisfit⟩ := not_fits_of_mem_strays hs
    rw [hlocation, told_index helement]
    exact .index helement rfl (Slot.misfitAt_nil hmisfit)

/-- A value with errors does not fit its field. -/
theorem misfitAt_whole {s : Shape} (hv : v.IsJson) (he : e ∈ s.errors v) :
    (Slot.field s).MisfitAt v [] := by
  refine Slot.misfitAt_nil fun hfits => ?_
  rw [(errors_eq_nil hv).mpr hfits] at he
  cases he

/-- What is told of an error of a record inside a manifest leads to a misfit. -/
theorem misfitAt_told_record {r : RecordShape LeafShape} (hr : r.Spelled) (hv : v.IsJson)
    (he : e ∈ (Shape.record r).errors v) :
    (Slot.field (.record r)).MisfitAt v (told v e.location) := by
  have hwhole := misfitAt_whole hv he
  cases v with
  | map inner =>
    obtain ⟨f, hf, key, w, hfind, e', he', rfl⟩ := (mem_fieldErrors hv.hasStringKeys).mp he
    have hw := (FieldShape.find?_eq_some.mp hfind).1
    have hstep : (Slot.field (.record r)).step? (.key key) = some (.field (.leaf f.shape)) := by
      rw [Slot.step?, hr.field?_eq_some hf (FieldShape.key_of_find? hfind), Option.map_some]
    rw [told_key hw]
    exact .key hw hstep (misfitAt_told_leaf (hv.of_get? hw) he')
  | null => cases he
  | _ =>
    obtain rfl := List.mem_singleton.mp he
    exact hwhole

/-- The way to what is dropped of an element of a list of toolsets leads to a misfit, unless the
element is misread. -/
theorem misfitAt_way_entry (hv : v.IsJson) (he : e ∈ Shape.mixedErrors referenceShape v)
    (hread : ∀ inner, v = .map inner → ¬ isMisread inner = true) :
    (Slot.entry referenceShape).MisfitAt v (way v e.location) := by
  have hwhole : (Slot.entry referenceShape).MisfitAt v [] := by
    refine Slot.misfitAt_nil fun hfits => ?_
    rw [(mixedErrors_eq_nil hv).mpr hfits] at he
    cases he
  have hmem : way v e.location ∈ waysOf v (Shape.mixedErrors referenceShape v) :=
    mem_waysOf.mpr ⟨e, he, rfl⟩
  cases v with
  | map inner =>
    rcases mem_waysOf_reference hv hmem with hnil | ⟨key, xs, hfind, s, hs, hway⟩
    · rw [hnil]
      exact hwhole
    · -- the way of a name that is no string
      have hname := get?_of_not_isMisread (hread inner rfl) hfind (List.ne_nil_of_mem hs)
      obtain ⟨helement, hmisfit⟩ := not_fits_of_mem_strays hs
      have hspelled : referenceShape.Spelled := by decide +kernel
      have hstep : (Slot.entry referenceShape).step? (.key key) =
          some (.field (.leaf referenceToolIds.shape)) := by
        rw [Slot.step?, hspelled.field?_eq_some (List.mem_cons_of_mem _ List.mem_cons_self)
          (FieldShape.key_of_find? hfind), Option.map_some]
      rw [hway, way_stray hname hfind hs]
      exact .key (FieldShape.find?_eq_some.mp hfind).1 hstep
        (.index helement rfl (Slot.misfitAt_nil hmisfit))
  | _ =>
    rw [eq_nil_of_mem_waysOf rfl hmem]
    exact hwhole

end Errors

end Cleaning

namespace Manifest

/-- Whether an object in a list of toolsets may need more than one round: some of its names of
operations are no strings, and it is misread or would not fit without them either. -/
def isWrongTwice : Value → Bool
  | .map inner => hasStrays inner && (isMisread inner || !holdsText (toolset.value? inner))
  | _ => false

/-- An object that is misread is wrong twice. -/
theorem not_isMisread_of_isWrongTwice {inner : Fields} (h : isWrongTwice (.map inner) = false) :
    ¬ isMisread inner = true := by
  intro hmisread
  have hstrays : hasStrays inner = true := (Bool.and_eq_true_iff.mp hmisread).2
  rw [isWrongTwice, hmisread, hstrays] at h
  cases h

/-- What is reported of a key is that of one round: the key is not that of a list of toolsets with an
object that needs more of them. -/
def IsSteady (fields : Fields) (key : String) : Prop :=
  key = toolsets.key → ∀ xs, fields.get? key = some (.list xs) → ∀ x ∈ xs, isWrongTwice x = false

end Manifest

namespace Cleaning

open Manifest

section Fields

variable {k : Kind} {f : FieldShape Shape} {fields : Fields} {key : String} {v : Value}

/-- A list of toolsets has one spelling. -/
theorem key_of_mixed (hf : f ∈ k.shape.fields) (hshape : f.shape = .mixed referenceShape)
    (hkey : f.key = key ∨ f.otherKey = key) : key = toolsets.key := by
  have hfield : ∀ f ∈ k.shape.fields, f.shape = .mixed referenceShape →
      f.key = toolsets.key ∧ f.otherKey = toolsets.key := by
    cases k <;> decide
  obtain ⟨h, h'⟩ := hfield f hf hshape
  rcases hkey with rfl | rfl
  · exact h
  · exact h'

/-- What is told of an error of a field leads to a misfit. -/
theorem misfitAt_told (hf : f ∈ k.shape.fields) (hkey : f.key = key ∨ f.otherKey = key)
    (hsteady : IsSteady fields key) (hget : fields.get? key = some v) (hv : v.IsJson)
    {e : FieldError} (he : e ∈ f.shape.errors v) :
    (Slot.field f.shape).MisfitAt v (told v e.location) := by
  have hwhole := misfitAt_whole hv he
  rcases k.shape_cases hf with hshape | hshape | hshape | hshape | hshape <;>
    rw [hshape] at he hwhole ⊢
  · exact misfitAt_told_leaf hv he
  · exact misfitAt_told_leaf hv he
  · -- a mapping is kept as it stands, so that only the whole of it can be wrong
    cases hv with
    | map hkeys => simp [Shape.errors, textKeyErrors_eq_nil hkeys] at he
    | null => cases he
    | _ =>
      obtain rfl := List.mem_singleton.mp he
      exact hwhole
  · exact misfitAt_told_record (by decide +kernel) hv he
  · -- in a list of toolsets what is told goes through an element
    cases hv with
    | null => cases he
    | @list xs hxs =>
      obtain ⟨i, x, hx, e', he', rfl⟩ := mem_elementErrors.mp he
      have hmem : x ∈ xs := List.mem_of_getElem? hx
      have hright := hsteady (key_of_mixed hf hshape hkey) xs hget x hmem
      rw [told_index hx]
      refine .index hx rfl (misfitAt_way_entry (hxs x hmem) he' fun inner hinner => ?_)
      exact not_isMisread_of_isWrongTwice (hinner ▸ hright)
    | _ =>
      obtain rfl := List.mem_singleton.mp he
      exact hwhole

end Fields

section Settled

variable {errors : Value → List FieldError} {v : Value} {ways : List (List Part)}

/-- A value of which nothing is dropped has no errors. -/
theorem errors_prune_nil (hways : ∀ w, w ∈ ways ↔ IsInnermost (waysOf v (errors v)) w)
    (hnone : ways = []) : errors (v.prune ways) = [] := by
  rw [hnone, Value.prune_nil]
  by_contra hne
  have hsome : waysOf v (errors v) ≠ [] := by simpa [waysOf] using hne
  obtain ⟨w, hw⟩ := exists_isInnermost hsome
  have hmem := (hways w).mpr hw
  rw [hnone] at hmem
  cases hmem

/-- A value that is kept whole where it can only be dropped whole has no errors. -/
theorem errors_prune_of_forall_nil (hways : ∀ w, w ∈ ways ↔ IsInnermost (waysOf v (errors v)) w)
    (hkept : [] ∉ ways) (hnil : ∀ w ∈ waysOf v (errors v), w = []) : errors (v.prune ways) = [] := by
  refine errors_prune_nil hways (List.eq_nil_iff_forall_not_mem.mpr fun w hw => ?_)
  obtain rfl := hnil w ((hways w).mp hw).1
  exact hkept hw

/-- One round settles an element of a list of toolsets that is not wrong twice. -/
theorem mixedErrors_prune (hv : v.IsJson) (hright : isWrongTwice v = false)
    (hways : ∀ w, w ∈ ways ↔ IsInnermost (waysOf v (Shape.mixedErrors referenceShape v)) w)
    (hkept : [] ∉ ways) : Shape.mixedErrors referenceShape (v.prune ways) = [] := by
  cases v with
  | map inner =>
    rcases ways_cases hv hways hkept with hnone | ⟨hmisread, -⟩ | ⟨-, key, xs, hfind, hstray⟩
    · exact errors_prune_nil hways hnone
    · exact absurd hmisread (not_isMisread_of_isWrongTwice hright)
    · -- the names that are no strings are dropped, and the rest fits
      by_cases hempty : strays xs = []
      · refine errors_prune_nil hways (List.eq_nil_iff_forall_not_mem.mpr fun w hw => ?_)
        obtain ⟨s, hs, -⟩ := (hstray w).mp hw
        rw [hempty] at hs
        cases hs
      · obtain ⟨hfound, htoolset, -, -⟩ := find?_pruneEntries_strays hfind hstray
        have hjson := hv.prune ways
        rw [Value.prune] at hjson ⊢
        refine mixedErrors_of_isReference hjson ?_ fun hstrays => ?_
        · -- the name is a string, since the object has strays and is not wrong twice
          rw [isWrongTwice, hasStrays_iff.mpr ⟨key, xs, hfind, hempty⟩, Bool.true_and,
            Bool.or_eq_false_iff, Bool.not_eq_false'] at hright
          rw [isReference, FieldShape.value?, FieldShape.value?, htoolset, hfound, Bool.and_eq_true]
          exact ⟨hright.2, rfl⟩
        · obtain ⟨key', ys, hfind', hne⟩ := hasStrays_iff.mp hstrays
          rw [hfound] at hfind'
          cases hfind'
          exact hne (strays_eq_nil.mpr fun x hx => (List.mem_filter.mp hx).2)
  | _ => exact errors_prune_of_forall_nil hways hkept fun w hw => eq_nil_of_mem_waysOf rfl hw

/-- A value that has to be a string is dropped whole. -/
theorem eq_nil_of_mem_waysOf_text {w : List Part} (hw : w ∈ waysOf v (Shape.textErrors v)) :
    w = [] := by
  obtain ⟨e, he, rfl⟩ := mem_waysOf.mp hw
  cases v with
  | str => cases he
  | _ =>
    obtain rfl := List.mem_singleton.mp he
    rfl

/-- One round settles a string or a list of strings. -/
theorem leafErrors_prune {l : LeafShape} (hv : v.IsJson)
    (hways : ∀ w, w ∈ ways ↔ IsInnermost (waysOf v (l.errors v)) w) (hkept : [] ∉ ways) :
    l.errors (v.prune ways) = [] := by
  -- a list of strings loses elements, anything else can only be dropped whole
  by_cases hlist : l = .texts ∧ ∃ xs, v = .list xs
  · obtain ⟨rfl, xs, rfl⟩ := hlist
    have hways : ∀ w, w ∈ ways ↔
        IsInnermost (waysOf (.list xs) (Shape.elementErrors Shape.textErrors xs)) w := hways
    refine elementErrors_eq_nil.mpr (forall_mem_pruneItems hways fun x _ inner hinner hnil => ?_)
    exact errors_prune_of_forall_nil hinner hnil fun w hw => eq_nil_of_mem_waysOf_text hw
  · refine errors_prune_of_forall_nil hways hkept fun w hw => ?_
    obtain ⟨e, he, rfl⟩ := mem_waysOf.mp hw
    rcases location_of_mem_errors hv he with ⟨hnil, -, -⟩ | ⟨htexts, xs, hxs, -⟩
    · rw [hnil, way_nil]
    · exact absurd ⟨htexts, xs, hxs⟩ hlist

/-- A record all of whose fields hold strings is dropped whole. -/
theorem eq_nil_of_mem_waysOf_record {r : RecordShape LeafShape} (hv : v.IsJson)
    (htexts : ∀ f ∈ r.fields, f.shape = .text) {w : List Part}
    (hw : w ∈ waysOf v ((Shape.record r).errors v)) : w = [] := by
  obtain ⟨e, he, rfl⟩ := mem_waysOf.mp hw
  cases v with
  | map inner =>
    obtain ⟨f, hf, key, w, hfind, e', he', rfl⟩ := (mem_fieldErrors hv.hasStringKeys).mp he
    have hw : w.IsJson := hv.of_get? (FieldShape.find?_eq_some.mp hfind).1
    rcases location_of_mem_errors hw he' with ⟨hnil, -, -⟩ | ⟨hshape, -⟩
    · exact way_eq_nil (by simp [hnil]) _
    · rw [htexts f hf] at hshape
      cases hshape
  | null => cases he
  | _ =>
    obtain rfl := List.mem_singleton.mp he
    rfl

variable {k : Kind} {f : FieldShape Shape} {fields : Fields} {key : String}

/-- One round settles the value of a field. -/
theorem errors_prune (hf : f ∈ k.shape.fields) (hkey : f.key = key ∨ f.otherKey = key)
    (hsteady : IsSteady fields key) (hget : fields.get? key = some v) (hv : v.IsJson)
    (hways : ∀ w, w ∈ ways ↔ IsInnermost (waysOf v (f.shape.errors v)) w) (hkept : [] ∉ ways) :
    f.shape.errors (v.prune ways) = [] := by
  rcases k.shape_cases hf with hshape | hshape | hshape | hshape | hshape <;>
    rw [hshape] at hways ⊢
  · exact leafErrors_prune hv hways hkept
  · exact leafErrors_prune hv hways hkept
  · -- a mapping, and below it the part about a schema, can only be dropped whole
    refine errors_prune_of_forall_nil hways hkept fun w hw => ?_
    cases hv with
    | map hkeys => simp [Shape.errors, textKeyErrors_eq_nil hkeys, waysOf] at hw
    | null => cases hw
    | _ => exact List.mem_singleton.mp hw
  · exact errors_prune_of_forall_nil hways hkept fun w hw =>
      eq_nil_of_mem_waysOf_record hv (by decide) hw
  · by_cases hlist : ∃ xs, v = .list xs
    · obtain ⟨xs, rfl⟩ := hlist
      have hright := hsteady (key_of_mixed hf hshape hkey) xs hget
      have hways : ∀ w, w ∈ ways ↔ IsInnermost (waysOf (.list xs)
          (Shape.elementErrors (Shape.mixedErrors referenceShape) xs)) w := hways
      refine elementErrors_eq_nil.mpr (forall_mem_pruneItems hways fun x hx inner hinner hnil => ?_)
      exact mixedErrors_prune (hv.of_mem hx) (hright x hx) hinner hnil
    · refine errors_prune_of_forall_nil hways hkept fun w hw => ?_
      cases hv with
      | null => cases hw
      | @list xs => exact absurd ⟨xs, rfl⟩ hlist
      | _ => exact List.mem_singleton.mp hw

end Settled

section Rounds

variable {k : Kind} {f : FieldShape Shape} {fields left : Fields} {key : String} {v : Value}
  {issues : List FieldIssue}

/-- What one round reports of the value of a field. -/
def fieldIssues (f : FieldShape Shape) (key : String) (v : Value) : List FieldIssue :=
  (innermost (distinct ((f.shape.errors v).map (dropAt key v)))).map Drop.issue

/-- Nothing has been reported of a key, and it has its value, or what has been reported is that of
one round, and what is left of the value fits. -/
def Settles (k : Kind) (fields : Fields) (key : String) (issues : List FieldIssue) (left : Fields) :
    Prop :=
  issues.filter (fun i => i.field == key) = [] ∧ left.get? key = fields.get? key ∨
    ∃ f ∈ k.shape.fields, (f.key = key ∨ f.otherKey = key) ∧ ∃ v, fields.get? key = some v ∧
      issues.filter (fun i => i.field == key) = fieldIssues f key v ∧
      ∀ w, left.get? key = some w → f.shape.errors w = []

/-- The first round that drops something under a key settles it, and the others leave it alone. -/
theorem Settles.round (h : (Value.map fields).IsJson) (hsteady : IsSteady fields key)
    (hkeys : left.HasStringKeys) (hsettles : Settles k fields key issues left) :
    Settles k fields key (issues ++ (dropped k.shape left).map Drop.issue) (kept k.shape left) := by
  have hfilter : ((dropped k.shape left).map Drop.issue).filter (fun i => i.field == key) =
      ((dropped k.shape left).filter fun d => d.issue.field == key).map Drop.issue :=
    List.filter_map
  unfold Settles
  rw [List.filter_append, hfilter]
  by_cases hdropped : ∀ d ∈ dropped k.shape left, d.issue.field ≠ key
  · have hnone : (dropped k.shape left).filter (fun d => d.issue.field == key) = [] :=
      List.filter_eq_nil_iff.mpr fun d hd => by simpa using hdropped d hd
    rw [hnone, List.map_nil, List.append_nil,
      get?_kept_of_forall_ne k.spelled_shape hkeys hdropped]
    exact hsettles
  · push Not at hdropped
    obtain ⟨d, hd, rfl⟩ := hdropped
    obtain ⟨f, hf, v, hfind, hmisfit⟩ := exists_of_mem_dropped k.spelled_shape hkeys hd
    have hget := (FieldShape.find?_eq_some.mp hfind).1
    have hkey := FieldShape.key_of_find? hfind
    rcases hsettles with ⟨hnone, hsame⟩ | ⟨f', hf', hkey', -, -, -, hfits⟩
    · -- the value is still that of the mapping, and this round settles it
      rw [hsame] at hget
      refine .inr ⟨f, hf, hkey, v, hget, ?_, fun w hw => ?_⟩
      · rw [hnone, List.nil_append, filter_dropped k.spelled_shape hkeys hf hfind]
        rfl
      · obtain ⟨ways, hways, hkept⟩ := get?_kept_of_find? k.spelled_shape hkeys hf hfind
        rw [hkept] at hw
        split at hw
        · cases hw
        · rename_i hnil
          cases hw
          exact errors_prune hf hkey hsteady hget (h.of_get? hget) hways hnil
    · -- what is left of a settled value fits
      obtain rfl : f' = f := Option.some.inj
        ((k.spelled_shape.field?_eq_some hf' hkey').symm.trans
          (k.spelled_shape.field?_eq_some hf hkey))
      exact absurd (hfits v hget) hmisfit

/-- What is told of an error leads from the mapping to a misfit. -/
theorem misfitAt_cons_told (h : (Value.map fields).IsJson) (hsteady : IsSteady fields key)
    (hf : f ∈ k.shape.fields) (hkey : f.key = key ∨ f.otherKey = key)
    (hget : fields.get? key = some v) {e : FieldError} (he : e ∈ f.shape.errors v) :
    (Slot.manifest k.shape).MisfitAt (.map fields) (.key key :: told v e.location) := by
  refine .key hget ?_ (misfitAt_told hf hkey hsteady hget (h.of_get? hget) he)
  rw [Slot.step?, k.spelled_shape.field?_eq_some hf hkey, Option.map_some]

/-- Different ways to misfits have different texts. -/
theorem dotted_ne_of_misfitAt {part part' : Part} {path path' : List Part}
    (h : (Slot.manifest k.shape).MisfitAt (.map fields) (part :: path))
    (h' : (Slot.manifest k.shape).MisfitAt (.map fields) (part' :: path'))
    (hne : part :: path ≠ part' :: path') :
    Part.dotted (part :: path) ≠ Part.dotted (part' :: path') := by
  obtain ⟨q, w, hq, hw, -⟩ := h
  obtain ⟨q', w', hq', hw', -⟩ := h'
  exact fun heq => hne (Part.dotted_injective (by rw [hw]; rfl) (by rw [hw']; rfl)
    (k.dotless.of_at? hq) (k.dotless.of_at? hq') (List.cons_ne_nil _ _) (List.cons_ne_nil _ _) heq)

/-- An issue of a field tells the way to a misfit. -/
theorem exists_of_mem_fieldIssues (h : (Value.map fields).IsJson) (hsteady : IsSteady fields key)
    (hf : f ∈ k.shape.fields) (hkey : f.key = key ∨ f.otherKey = key)
    (hget : fields.get? key = some v) {i : FieldIssue} (hi : i ∈ fieldIssues f key v) :
    ∃ path, i.location = Part.dotted (.key key :: path) ∧
      (Slot.manifest k.shape).MisfitAt (.map fields) (.key key :: path) := by
  obtain ⟨d, hd, rfl⟩ := List.mem_map.mp hi
  obtain ⟨e, he, rfl⟩ := List.mem_map.mp ((distinct_sublist _).subset (List.mem_of_mem_filter hd))
  exact ⟨_, by rw [issue_dropAt], misfitAt_cons_told h hsteady hf hkey hget he⟩

/-- The issues of a field tell different ways. -/
theorem pairwise_fieldIssues (h : (Value.map fields).IsJson) (hsteady : IsSteady fields key)
    (hf : f ∈ k.shape.fields) (hkey : f.key = key ∨ f.otherKey = key)
    (hget : fields.get? key = some v) :
    (fieldIssues f key v).Pairwise fun a b => a.location ≠ b.location := by
  generalize hds : distinct ((f.shape.errors v).map (dropAt key v)) = ds
  have hpairwise : (innermost ds).Pairwise fun a b => a.target ≠ b.target :=
    (hds ▸ pairwise_distinct _).filter _
  have herror : ∀ d ∈ innermost ds, ∃ e ∈ f.shape.errors v, dropAt key v e = d := fun d hd =>
    List.mem_map.mp ((distinct_sublist _).subset (hds ▸ List.mem_of_mem_filter hd))
  -- nothing else is dropped inside of a value that is dropped whole
  have htold : ∀ e e', dropAt key v e ∈ innermost ds → dropAt key v e' ∈ innermost ds →
      (dropAt key v e).target ≠ (dropAt key v e').target →
      told v e.location = way v e.location := by
    intro e e' hd hd' hne
    rw [told, if_neg]
    intro hnil
    have hinnermost := mem_map_target_innermost.mp (List.mem_map_of_mem (f := Drop.target) hd)
    refine hne (hinnermost.2 _ (List.mem_map_of_mem (List.mem_of_mem_filter hd')) ?_).symm
    rw [target_dropAt, target_dropAt, hnil]
    exact (List.prefix_cons_inj _).mpr List.nil_prefix
  unfold fieldIssues
  rw [hds]
  refine List.pairwise_map.mpr (hpairwise.imp_of_mem fun {a b} ha hb hne => ?_)
  obtain ⟨e, he, rfl⟩ := herror a ha
  obtain ⟨e', he', rfl⟩ := herror b hb
  rw [issue_dropAt, issue_dropAt]
  refine dotted_ne_of_misfitAt (misfitAt_cons_told h hsteady hf hkey hget he)
    (misfitAt_cons_told h hsteady hf hkey hget he') ?_
  rw [htold e e' ha hb hne, htold e' e hb ha hne.symm, ← target_dropAt, ← target_dropAt]
  exact hne

/-- The issues of a mapping that has been cleaned, key by key. -/
theorem settles_clean (h : (Value.map fields).IsJson) {clean : Fields}
    (hclean : Cleaning.clean k.shape fields = .ok (clean, issues)) (hsteady : IsSteady fields key) :
    Settles k fields key issues clean :=
  (cleanFrom_induction (P := fun issues left => Settles k fields key issues left)
    (fun _ _ hkeys hP => hP.round h hsteady hkeys) h.hasStringKeys (.inl ⟨rfl, rfl⟩) hclean).1

/-- The issues of a key with an issue are those of its field. -/
theorem Settles.exists_fieldIssues (hsettles : Settles k fields key issues left) {i : FieldIssue}
    (hi : i ∈ issues) (hfield : i.field = key) :
    ∃ f ∈ k.shape.fields, (f.key = key ∨ f.otherKey = key) ∧ ∃ v, fields.get? key = some v ∧
      issues.filter (fun i => i.field == key) = fieldIssues f key v := by
  rcases hsettles with ⟨hnone, -⟩ | ⟨f, hf, hkey, v, hget, hissues, -⟩
  · exact absurd (beq_iff_eq.mpr hfield) (List.filter_eq_nil_iff.mp hnone i hi)
  · exact ⟨f, hf, hkey, v, hget, hissues⟩

end Rounds

/-- Members of a list are related if those with the same key are, and those with different keys. -/
theorem pairwise_of_filter {α β : Type} [DecidableEq β] {g : α → β} {R : α → α → Prop} {l : List α}
    (hsame : ∀ a ∈ l, (l.filter fun x => g x == g a).Pairwise R)
    (hother : ∀ a ∈ l, ∀ b ∈ l, g a ≠ g b → R a b) : l.Pairwise R := by
  induction l with
  | nil => exact .nil
  | cons a l ih =>
    refine List.pairwise_cons.mpr ⟨fun b hb => ?_, ih (fun b hb => ?_) fun b hb c hc =>
      hother b (List.mem_cons_of_mem _ hb) c (List.mem_cons_of_mem _ hc)⟩
    · by_cases hkey : g a = g b
      · have hpair := hsame a List.mem_cons_self
        rw [List.filter_cons_of_pos (by simp)] at hpair
        exact (List.pairwise_cons.mp hpair).1 b (List.mem_filter.mpr ⟨hb, by simp [hkey]⟩)
      · exact hother a List.mem_cons_self b (List.mem_cons_of_mem _ hb) hkey
    · exact (hsame b (List.mem_cons_of_mem _ hb)).sublist ((List.sublist_cons_self a l).filter _)

end Cleaning

namespace Manifest.Kind

open Cleaning

/-- A mapping of values of JSON is loaded as a manifest of any kind, if there is room for copying it,
without an issue exactly if it fits the manifest. Each issue tells the way to a value in the mapping,
as it was written, that does not fit its place in the manifest, and no two issues tell the same way.
In a list of toolsets this holds if no object may need more than one round. -/
theorem exists_located (k : Kind) {fields : Fields} (h : (Value.map fields).IsJson) {room : ℕ}
    (hroom : fields.copyCalls ≤ room) :
    ∃ record issues, k.load fields room = .ok (record, issues) ∧
      (issues = [] ↔ (Slot.manifest k.shape).Fits (.map fields)) ∧
      (∀ i ∈ issues, IsSteady fields i.field → ∃ path, i.location = Part.dotted path ∧
        (Slot.manifest k.shape).MisfitAt (.map fields) path) ∧
      issues.Pairwise fun a b =>
        IsSteady fields a.field → IsSteady fields b.field → a.location ≠ b.location := by
  obtain ⟨⟨clean, issues⟩, hclean⟩ := Cleaning.exists_cleanFrom (r := k.shape) h.hasStringKeys []
  have hissues : ∀ i ∈ issues, IsSteady fields i.field → ∃ f ∈ k.shape.fields,
      (f.key = i.field ∨ f.otherKey = i.field) ∧ ∃ v, fields.get? i.field = some v ∧
        issues.filter (fun x => x.field == i.field) = fieldIssues f i.field v := fun i hi hsteady =>
    (settles_clean h hclean hsteady).exists_fieldIssues hi rfl
  have hpath : ∀ i ∈ issues, IsSteady fields i.field → ∃ path,
      i.location = Part.dotted (.key i.field :: path) ∧
        (Slot.manifest k.shape).MisfitAt (.map fields) (.key i.field :: path) := by
    intro i hi hsteady
    obtain ⟨f, hf, hkey, v, hget, hfilter⟩ := hissues i hi hsteady
    exact exists_of_mem_fieldIssues h hsteady hf hkey hget
      (hfilter ▸ List.mem_filter.mpr ⟨hi, beq_self_eq_true i.field⟩)
  refine ⟨k.build clean, issues, load_eq_ok.mpr ⟨hroom, clean, hclean, rfl⟩,
    (issues_eq_nil_iff hclean).trans (check_eq_nil h),
    fun i hi hsteady => (hpath i hi hsteady).imp' (.key i.field :: ·) fun _ hpath => hpath,
    pairwise_of_filter (g := FieldIssue.field) (fun i hi => ?_) fun a ha b hb hne ha' hb' => ?_⟩
  · -- the issues of one field, of which nothing is said if it is not steady
    by_cases hsteady : IsSteady fields i.field
    · obtain ⟨f, hf, hkey, v, hget, hfilter⟩ := hissues i hi hsteady
      rw [hfilter]
      exact (pairwise_fieldIssues h hsteady hf hkey hget).imp fun hne _ _ => hne
    · refine List.pairwise_of_forall_mem_list fun a ha _ _ ha' => absurd ha' ?_
      rw [beq_iff_eq.mp (List.mem_filter.mp ha).2]
      exact hsteady
  · -- the ways of different fields start with different keys
    obtain ⟨path, hlocation, hmisfit⟩ := hpath a ha ha'
    obtain ⟨path', hlocation', hmisfit'⟩ := hpath b hb hb'
    rw [hlocation, hlocation']
    exact dotted_ne_of_misfitAt hmisfit hmisfit' fun heq =>
      hne (Part.key.inj (List.cons.inj heq).1)

section Crate

/-- An agent's mapping with a name, names of agents and toolsets that do not fit. -/
def crate : Fields :=
  [(.str "displayName", .int 7), (.str "display_name", .bool true),
   (.str "childAgents", .list [.str "north", .int 1, .null]),
   (.str "toolsets", .list [
     .map [(.str "toolset", .str "books"), (.str "toolIds", .list [.int 1, .str "lend", .int 2])],
     .int 9, .map [(.str "toolset", .int 5)]])]

/-- The issues of the mapping tell different ways to its misfits: none of its toolsets is wrong
twice. -/
theorem exists_located_crate :
    (Value.map crate).IsJson ∧ (∀ key, IsSteady crate key) ∧ crate.copyCalls ≤ callRoom ∧
      ∃ record issues, Kind.agent.load crate = .ok (record, issues) ∧
        (issues = [] ↔ (Slot.manifest Kind.agent.shape).Fits (.map crate)) ∧
        (∀ i ∈ issues, ∃ path, i.location = Part.dotted path ∧
          (Slot.manifest Kind.agent.shape).MisfitAt (.map crate) path) ∧
        issues.Pairwise fun a b => a.location ≠ b.location := by
  have hjson : (Value.map crate).IsJson := by
    simp [crate, Value.isStr, Value.str?]
  have hsteady : ∀ key, IsSteady crate key := by
    rintro key rfl xs hxs
    cases hxs
    decide
  have hroom : crate.copyCalls ≤ callRoom := by decide
  obtain ⟨record, issues, hload, hfits, hlocated, hpairwise⟩ := exists_located .agent hjson hroom
  exact ⟨hjson, hsteady, hroom, record, issues, hload, hfits, fun i hi => hlocated i hi (hsteady _),
    hpairwise.imp fun h => h (hsteady _) (hsteady _)⟩

/-- An agent's list of toolsets with an object that is wrong twice. -/
def doubled : Fields :=
  [(.str "toolsets", .list [.int 7,
     .map [(.str "toolset", .int 5), (.str "toolIds", .list [.int 1])]])]

/-- The object that is wrong twice is told of under the index that it has in the second round. -/
theorem locations_load_doubled :
    (Kind.agent.load doubled).toOption.map (fun result => result.2.map FieldIssue.location) =
      some ["toolsets.0", "toolsets.1.toolIds.0", "toolsets.0"] := by
  decide +kernel

end Crate

end Manifest.Kind

end AgentPackage
