import AgentPackage.Proofs.Json.Values
import AgentPackage.Proofs.Manifest.Records
import AgentPackage.Proofs.Manifest.Ways

/-!
# Toolsets of agents

What cleaning leaves of an agent's list of toolsets. An element stays if it is a string, or an object
whose own fields could be those of a reference, and then it loses the names of operations that are no
strings. The errors of these names are told under the name of the record, though, so an object that
has this name for a key is searched under the key: nothing that is dropped there mends the error, and
in the end the object is dropped.

## Main definitions

* `Manifest.isReference`: the fields of a mapping could be those of a reference;
* `Manifest.isMisread`: the errors of a mapping are looked for under one of its own keys;
* `Manifest.survives`: an element is left in the list;
* `ToolsetEntry.Carries`: an entry has what a value says of a toolset.

## Main results

* `Cleaning.way_stray`, `Cleaning.way_of_held`: where errors of names lead;
* `Cleaning.survivor?_prune`: no round of cleaning changes what is left of an element in the end;
* `Manifest.exists_load_toolsets`: the toolsets of an agent that is loaded.
-/

namespace AgentPackage

/-- The value that a mapping holds in a field. -/
def FieldShape.value? {α : Type} (f : FieldShape α) (fields : Fields) : Option Value :=
  (f.find? fields).map Prod.snd

namespace Manifest

/-- Whether a value is a string, null or missing. -/
def holdsText : Option Value → Bool
  | none | some .null | some (.str _) => true
  | _ => false

/-- Whether a value is a list, null or missing. -/
def holdsList : Option Value → Bool
  | none | some .null | some (.list _) => true
  | _ => false

/-- Whether the fields of a mapping could be those of a reference to a toolset: a string and a list,
as far as they are there. -/
def isReference (inner : Fields) : Bool :=
  holdsText (toolset.value? inner) && holdsList (referenceToolIds.value? inner)

/-- Whether some of the names of operations in a mapping are no strings. -/
def hasStrays (inner : Fields) : Bool :=
  match referenceToolIds.value? inner with
  | some (.list xs) => xs.any fun x => !x.isStr
  | _ => false

/-- Whether the errors of names of operations are looked for in the wrong place, since the mapping
has the name of the record for a key. -/
def isMisread (inner : Fields) : Bool :=
  inner.contains referenceShape.name && hasStrays inner

/-- Whether an element of a list of toolsets is left when the list has been cleaned. -/
def survives : Value → Bool
  | .str _ => true
  | .map inner => isReference inner && !isMisread inner
  | _ => false

/-- The entry that is left of an element of a list of toolsets, if one is. -/
def survivor? (v : Value) : Option ToolsetEntry :=
  if survives v then toolsetEntry? v else none

end Manifest

/-- An entry has what a value says of a toolset: its name, and of the names of operations those that
are strings. -/
def ToolsetEntry.Carries : ToolsetEntry → Value → Prop
  | .name s, v => v = .str s
  | .reference r, v => ∃ inner, v = .map inner ∧
      (∀ s, r.toolset = some s ↔ Manifest.toolset.value? inner = some (.str s)) ∧
      (∀ ids, r.toolIds = some ids ↔ ∃ xs,
        Manifest.referenceToolIds.value? inner = some (.list xs) ∧ ids = xs.filterMap Value.str?) ∧
      r.extras = Manifest.extrasOf Manifest.referenceShape inner

namespace Value

variable {targets : List (List Part)} {es : List (Value × Value)}

/-- No way leads to a key if all of them start with another one. -/
theorem inside_eq_nil {key other : String} (h : ∀ w ∈ targets, ∃ rest, w = .key key :: rest)
    (hne : other ≠ key) : inside targets (.key other) = [] := by
  refine List.eq_nil_iff_forall_not_mem.mpr fun rest hrest => ?_
  obtain ⟨rest', heq⟩ := h _ (mem_inside.mp hrest)
  cases heq
  exact hne rfl

/-- A key keeps its value if all ways start with another one. -/
theorem get?_pruneEntries_of_ne {key other : String}
    (h : ∀ w ∈ targets, ∃ rest, w = .key key :: rest) (hne : other ≠ key) :
    Fields.get? (pruneEntries targets es) other = Fields.get? es other := by
  rw [get?_pruneEntries, inside_eq_nil h hne]
  cases Fields.get? es other <;> simp [prune_nil]

/-- A field that is found under another key than all ways start with is found as it was. -/
theorem find?_pruneEntries_of_ne {α : Type} {f : FieldShape α} {key : String}
    (h : ∀ w ∈ targets, ∃ rest, w = .key key :: rest) (hkey : f.key ≠ key)
    (hotherKey : f.otherKey ≠ key) : f.find? (pruneEntries targets es) = f.find? es := by
  unfold FieldShape.find?
  rw [get?_pruneEntries_of_ne h hkey, get?_pruneEntries_of_ne h hotherKey]

/-- Entries that are told by their keys are left as they are, if no way leads to these keys. -/
theorem filter_pruneEntries {p : Value × Value → Bool} (hp : ∀ k v w, p (k, v) = p (k, w))
    (h : ∀ k v, p (.str k, v) = true → inside targets (.key k) = []) :
    (pruneEntries targets es).filter p = es.filter p := by
  induction es with
  | nil => rfl
  | cons e es ih =>
    obtain ⟨key, v⟩ := e
    cases key with
    | str k =>
      rw [pruneEntries]
      cases hkey : p (.str k, v) with
      | true =>
        have hnone := h k v hkey
        simp only [hnone, List.contains_nil, Bool.false_eq_true, if_false, prune_nil]
        rw [List.filter_cons_of_pos hkey, List.filter_cons_of_pos hkey, ih]
      | false =>
        rw [List.filter_cons_of_neg (by simp [hkey])]
        split
        · exact ih
        · rw [List.filter_cons_of_neg (by simp [hp _ _ v, hkey]), ih]
    | _ =>
      rw [pruneEntries, List.filter_cons, List.filter_cons, ih]
      simp

end Value

namespace Cleaning

open Manifest

section Errors

variable {α : Type} {r : RecordShape α} {errors : α → Value → List FieldError} {fields : Fields}

/-- The errors of a record whose keys are strings are those of its fields. -/
theorem mem_fieldErrors (hkeys : fields.HasStringKeys) {e : FieldError} :
    e ∈ r.fieldErrors errors fields ↔ ∃ f ∈ r.fields, ∃ key v, f.find? fields = some (key, v) ∧
      ∃ inner ∈ errors f.shape v, { inner with location := .key key :: inner.location } = e := by
  unfold RecordShape.fieldErrors
  rw [keyErrors_eq_nil hkeys, List.append_nil, List.mem_flatMap]
  refine exists_congr fun f => and_congr_right fun _ => ?_
  cases hfind : f.find? fields with
  | none => simp
  | some found =>
    obtain ⟨key, v⟩ := found
    simp only [FieldError.under, List.mem_map, Option.some.injEq, Prod.mk.injEq]
    constructor
    · exact fun h => ⟨key, v, ⟨rfl, rfl⟩, h⟩
    · rintro ⟨_, _, ⟨rfl, rfl⟩, h⟩
      exact h

/-- An error of a string or a list of strings is one of the value, or of an element that is no
string. -/
theorem location_of_mem_errors {l : LeafShape} {v : Value} (hv : v.IsJson) {e : FieldError}
    (he : e ∈ l.errors v) :
    (e.location = [] ∧ (l = .text → Manifest.holdsText (some v) = false) ∧
        (l = .texts → Manifest.holdsList (some v) = false)) ∨
      l = .texts ∧ ∃ xs, v = .list xs ∧ ∃ s ∈ strays xs, e.location = [.index s.2] := by
  cases l with
  | text =>
    left
    cases hv <;> simp_all [LeafShape.errors, Shape.textErrors, FieldError.here, Manifest.holdsText]
  | texts =>
    cases hv with
    | list hxs =>
      right
      have he : e ∈ Shape.elementErrors Shape.textErrors _ := he
      rw [elementErrors_textErrors] at he
      obtain ⟨s, hs, rfl⟩ := List.mem_map.mp he
      exact ⟨rfl, _, rfl, s, hs, rfl⟩
    | _ =>
      left
      simp_all [LeafShape.errors, Shape.elements?, FieldError.here, Manifest.holdsList]

/-- A value of JSON that fits a string is one, or null. -/
theorem holdsText_of_errors {v : Value} (hv : v.IsJson) (h : LeafShape.text.errors v = []) :
    holdsText (some v) = true := by
  cases hv with
  | null | str => rfl
  | _ => cases h

/-- A value of JSON that fits a list of strings is one, or null. -/
theorem holdsList_of_errors {v : Value} (hv : v.IsJson) (h : LeafShape.texts.errors v = []) :
    holdsList (some v) = true ∧ ∀ xs, v = .list xs → ∀ x ∈ xs, x.isStr = true := by
  cases hv with
  | null => exact ⟨rfl, fun xs hxs => by cases hxs⟩
  | @list xs =>
    refine ⟨rfl, fun ys hys => ?_⟩
    obtain rfl : xs = ys := Value.list.inj hys
    have h : Shape.elementErrors Shape.textErrors xs = [] := h
    rwa [elementErrors_textErrors, List.map_eq_nil_iff, strays_eq_nil] at h
  | _ => cases h

end Errors

section References

variable {inner : Fields} {key : String} {xs : List Value}

/-- The errors of a string or a record are told under the name of the one that the value is not. -/
theorem location_of_mem_mixedErrors {r : RecordShape LeafShape} {v : Value} {e : FieldError}
    (he : e ∈ Shape.mixedErrors r v) :
    e.location = [.key "str"] ∨
      ∃ inner ∈ r.errors LeafShape.errors v, e.location = .key r.name :: inner.location := by
  unfold Shape.mixedErrors at he
  split at he
  · cases he
  · dsimp only at he
    split at he
    · cases he
    · rcases List.mem_append.mp he with he | he
      · obtain ⟨inner, hinner, rfl⟩ := List.mem_map.mp he
        left
        cases v with
        | str s => cases hinner
        | _ =>
          obtain rfl := List.mem_singleton.mp hinner
          rfl
      · obtain ⟨inner, hinner, rfl⟩ := List.mem_map.mp he
        exact .inr ⟨inner, hinner, rfl⟩

/-- The errors of a record are among those of a string or a record. -/
theorem exists_mem_mixedErrors {r : RecordShape LeafShape} {e : FieldError}
    (he : e ∈ r.errors LeafShape.errors (.map inner)) :
    ∃ e' ∈ Shape.mixedErrors r (.map inner), e'.location = .key r.name :: e.location := by
  unfold Shape.mixedErrors
  rw [if_neg (by rintro ⟨⟩)]
  dsimp only
  rw [if_neg (by rw [List.isEmpty_iff]; exact List.ne_nil_of_mem he)]
  exact ⟨_, List.mem_append_right _ (List.mem_map_of_mem he), rfl⟩

/-- An object that has no errors as a string or a record has none as a record. -/
theorem recordErrors_of_mixedErrors {r : RecordShape LeafShape}
    (h : Shape.mixedErrors r (.map inner) = []) : r.errors LeafShape.errors (.map inner) = [] := by
  refine List.eq_nil_iff_forall_not_mem.mpr fun e he => ?_
  obtain ⟨e', he', -⟩ := exists_mem_mixedErrors he
  rw [h] at he'
  cases he'

/-- A mapping has names of operations that are no strings if they stand in its list of them. -/
theorem hasStrays_iff : hasStrays inner = true ↔
    ∃ key xs, referenceToolIds.find? inner = some (key, .list xs) ∧ strays xs ≠ [] := by
  have hany : ∀ xs : List Value, (xs.any fun x => !x.isStr) = true ↔ strays xs ≠ [] := by
    intro xs
    rw [ne_eq, strays_eq_nil]
    simp
  unfold hasStrays FieldShape.value?
  cases hfind : referenceToolIds.find? inner with
  | none => simp
  | some found =>
    obtain ⟨key, v⟩ := found
    cases v with
    | list xs => simpa using hany xs
    | _ => simp

/-- A mapping with names of operations that are no strings has not the name of the record for a key,
unless it is misread. -/
theorem get?_of_not_isMisread (hread : ¬ isMisread inner = true)
    (hfind : referenceToolIds.find? inner = some (key, .list xs)) (hstrays : strays xs ≠ []) :
    inner.get? referenceShape.name = none := by
  rw [isMisread, hasStrays_iff.mpr ⟨key, xs, hfind, hstrays⟩, Bool.and_true,
    Fields.contains_eq] at hread
  simpa using hread

/-- An error of a reference lies in a field of it, or it is that of a name that is no string. -/
theorem location_of_mem_referenceErrors (h : (Value.map inner).IsJson) {e : FieldError}
    (he : e ∈ referenceShape.errors LeafShape.errors (.map inner)) :
    (isReference inner = false ∧ ∃ key, e.location = [.key key]) ∨
      ∃ key xs, referenceToolIds.find? inner = some (key, .list xs) ∧
        ∃ s ∈ strays xs, e.location = [.key key, .index s.2] := by
  obtain ⟨f, hf, key, v, hfind, e', he', rfl⟩ := (mem_fieldErrors h.hasStringKeys).mp he
  have hv : v.IsJson := h.of_get? (FieldShape.find?_eq_some.mp hfind).1
  have hvalue : f.value? inner = some v := by rw [FieldShape.value?, hfind, Option.map_some]
  rcases location_of_mem_errors hv he' with ⟨hnil, htext, hlist⟩ | ⟨htexts, xs, rfl, s, hs, hloc⟩
  · refine .inl ⟨?_, key, by rw [hnil]⟩
    unfold isReference
    rcases List.mem_cons.mp hf with rfl | hf
    · rw [hvalue, htext rfl, Bool.false_and]
    · obtain rfl := List.mem_singleton.mp hf
      rw [hvalue, hlist rfl, Bool.and_false]
  · refine .inr ⟨key, xs, ?_, s, hs, by rw [hloc]⟩
    rcases List.mem_cons.mp hf with rfl | hf
    · cases htexts
    · obtain rfl := List.mem_singleton.mp hf
      exact hfind

/-- A name that is no string is an error of the reference. -/
theorem exists_mem_referenceErrors (h : (Value.map inner).IsJson)
    (hfind : referenceToolIds.find? inner = some (key, .list xs)) {s : Value × ℕ}
    (hs : s ∈ strays xs) :
    ∃ e ∈ referenceShape.errors LeafShape.errors (.map inner),
      e.location = [.key key, .index s.2] := by
  have he : ⟨.stringType, [.index s.2], s.1⟩ ∈ LeafShape.texts.errors (.list xs) := by
    show _ ∈ Shape.elementErrors Shape.textErrors xs
    rw [elementErrors_textErrors]
    exact List.mem_map_of_mem hs
  exact ⟨_, (mem_fieldErrors h.hasStringKeys).mpr
    ⟨referenceToolIds, List.mem_cons_of_mem _ List.mem_cons_self, key, _, hfind, _, he, rfl⟩, rfl⟩

/-- The way to a name that is no string, in a mapping that has not the name of the record for a
key. -/
theorem way_stray (hname : inner.get? referenceShape.name = none)
    (hfind : referenceToolIds.find? inner = some (key, .list xs)) {s : Value × ℕ}
    (hs : s ∈ strays xs) :
    way (.map inner) [.key referenceShape.name, .key key, .index s.2] =
      [.key key, .index s.2] := by
  have helement : xs[s.2]? = some s.1 := List.mem_zipIdx_iff_getElem?.mp (List.mem_of_mem_filter hs)
  rw [way_key_of_none hname, way_key (FieldShape.find?_eq_some.mp hfind).1, way_index helement,
    way_nil, if_neg (List.cons_ne_nil _ _)]

/-- Where the mapping has the name of the record for a key the way ends under it, if there is one. -/
theorem way_of_held {u : Value} (hname : inner.get? referenceShape.name = some u)
    (rest : List Part) :
    way (.map inner) (.key referenceShape.name :: rest) = [] ∨
      ∃ part tail, way (.map inner) (.key referenceShape.name :: rest) =
        .key referenceShape.name :: part :: tail := by
  rw [way_key hname]
  cases way u rest with
  | nil => exact .inl rfl
  | cons part tail => exact .inr ⟨part, tail, rfl⟩

/-- What is dropped for errors of an object is the object or what is on the way of a name that is no
string. -/
theorem mem_waysOf_reference (h : (Value.map inner).IsJson) {w : List Part}
    (hw : w ∈ waysOf (.map inner) (Shape.mixedErrors referenceShape (.map inner))) :
    w = [] ∨ ∃ key xs, referenceToolIds.find? inner = some (key, .list xs) ∧ ∃ s ∈ strays xs,
      w = way (.map inner) [.key referenceShape.name, .key key, .index s.2] := by
  obtain ⟨e, he, rfl⟩ := mem_waysOf.mp hw
  rcases location_of_mem_mixedErrors he with hstr | ⟨inner', hinner, hlocation⟩
  · exact .inl (by rw [hstr]; exact way_eq_nil (by simp) _)
  · rw [hlocation]
    rcases location_of_mem_referenceErrors h hinner with ⟨-, key, hkey⟩ | ⟨key, xs, hfind, s, hs, hs'⟩
    · exact .inl (by rw [hkey]; exact way_eq_nil (by simp) _)
    · exact .inr ⟨key, xs, hfind, s, hs, by rw [hs']⟩

/-- The way of a name that is no string is one of the ways of the object. -/
theorem way_mem_waysOf (h : (Value.map inner).IsJson)
    (hfind : referenceToolIds.find? inner = some (key, .list xs)) {s : Value × ℕ}
    (hs : s ∈ strays xs) :
    way (.map inner) [.key referenceShape.name, .key key, .index s.2] ∈
      waysOf (.map inner) (Shape.mixedErrors referenceShape (.map inner)) := by
  obtain ⟨e, he, hlocation⟩ := exists_mem_referenceErrors h hfind hs
  obtain ⟨e', he', hlocation'⟩ := exists_mem_mixedErrors he
  exact mem_waysOf.mpr ⟨e', he', by rw [hlocation', hlocation]⟩

/-- An object with the fields of a reference whose names of operations are all strings has no
errors. -/
theorem mixedErrors_of_isReference (h : (Value.map inner).IsJson) (href : isReference inner = true)
    (hstrays : ¬ hasStrays inner = true) : Shape.mixedErrors referenceShape (.map inner) = [] := by
  have hnone : referenceShape.errors LeafShape.errors (.map inner) = [] := by
    refine List.eq_nil_iff_forall_not_mem.mpr fun e he => ?_
    rcases location_of_mem_referenceErrors h he with ⟨hnot, -⟩ | ⟨key, xs, hfind, s, hs, -⟩
    · rw [href] at hnot
      cases hnot
    · exact hstrays (hasStrays_iff.mpr ⟨key, xs, hfind, List.ne_nil_of_mem hs⟩)
  unfold Shape.mixedErrors
  rw [hnone]
  exact ite_self _

/-- A value that is neither a string nor an object has no way but that to itself. -/
theorem eq_nil_of_mem_waysOf {v : Value} (hv : v.map? = none) {w : List Part}
    (hw : w ∈ waysOf v (Shape.mixedErrors referenceShape v)) : w = [] := by
  obtain ⟨e, he, rfl⟩ := mem_waysOf.mp hw
  rcases location_of_mem_mixedErrors he with hstr | ⟨inner, hinner, hlocation⟩
  · rw [hstr]
    exact way_eq_nil (by simp) _
  · rw [hlocation]
    cases v with
    | map es => cases hv
    | _ =>
      obtain rfl := List.mem_singleton.mp hinner
      exact way_eq_nil (by simp) _

end References

section Elements

variable {v : Value} {inner : Fields} {ways : List (List Part)}

/-- An element of a list of toolsets that is dropped could not stay. -/
theorem survives_eq_false (hv : v.IsJson)
    (h : IsInnermost (waysOf v (Shape.mixedErrors referenceShape v)) []) : survives v = false := by
  obtain ⟨hmem, hinnermost⟩ := h
  obtain ⟨e, he, -⟩ := mem_waysOf.mp hmem
  cases v with
  | str s => cases he
  | map inner =>
    rw [survives, Bool.and_eq_false_iff, Bool.not_eq_false']
    by_contra hboth
    push Not at hboth
    obtain ⟨href, hread⟩ := hboth
    by_cases hstrays : hasStrays inner = true
    · -- the way of a name that is no string goes on from the object
      obtain ⟨key, xs, hfind, hne⟩ := hasStrays_iff.mp hstrays
      obtain ⟨s, hs⟩ := List.exists_mem_of_ne_nil _ hne
      have hother := hinnermost _ (way_mem_waysOf hv hfind hs) List.nil_prefix
      rw [way_stray (get?_of_not_isMisread hread hfind hne) hfind hs] at hother
      cases hother
    · rw [mixedErrors_of_isReference hv (by simpa using href) hstrays] at he
      cases he
  | _ => rfl

/-- A name that is no string is dropped, in an object that has not the name of the record for a key. -/
theorem isInnermost_stray (h : (Value.map inner).IsJson) {key : String} {xs : List Value}
    (hname : inner.get? referenceShape.name = none)
    (hfind : referenceToolIds.find? inner = some (key, .list xs)) {s : Value × ℕ}
    (hs : s ∈ strays xs) :
    IsInnermost (waysOf (.map inner) (Shape.mixedErrors referenceShape (.map inner)))
      [.key key, .index s.2] := by
  have hmem := way_mem_waysOf h hfind hs
  rw [way_stray hname hfind hs] at hmem
  refine ⟨hmem, fun other hother hinitial => ?_⟩
  -- all ways that go on at all have two steps
  rcases mem_waysOf_reference h hother with rfl | ⟨key', xs', hfind', s', hs', rfl⟩
  · cases List.prefix_nil.mp hinitial
  · rw [hfind] at hfind'
    cases hfind'
    rw [way_stray hname hfind hs'] at hinitial ⊢
    exact (hinitial.eq_of_length rfl).symm

/-- What is dropped inside of an object that stays is nothing, or it lies under the name of the
record, or it is all names that are no strings. -/
theorem ways_cases (h : (Value.map inner).IsJson)
    (hways : ∀ w, w ∈ ways ↔
      IsInnermost (waysOf (.map inner) (Shape.mixedErrors referenceShape (.map inner))) w)
    (hkept : [] ∉ ways) :
    ways = [] ∨
      (isMisread inner = true ∧
        ∀ w ∈ ways, ∃ part tail, w = .key referenceShape.name :: part :: tail) ∨
        inner.get? referenceShape.name = none ∧ ∃ key xs,
          referenceToolIds.find? inner = some (key, .list xs) ∧
            ∀ w, w ∈ ways ↔ ∃ s ∈ strays xs, w = [.key key, .index s.2] := by
  have hstray : ∀ w ∈ ways, ∃ key xs, referenceToolIds.find? inner = some (key, .list xs) ∧
      ∃ s ∈ strays xs, w = way (.map inner) [.key referenceShape.name, .key key, .index s.2] := by
    intro w hw
    exact (mem_waysOf_reference h ((hways w).mp hw).1).resolve_left fun hnil => hkept (hnil ▸ hw)
  by_cases hnone : ways = []
  · exact .inl hnone
  · obtain ⟨w, hw⟩ := List.exists_mem_of_ne_nil _ hnone
    obtain ⟨key, xs, hfind, s, hs, -⟩ := hstray w hw
    refine .inr ?_
    cases hname : inner.get? referenceShape.name with
    | some u =>
      -- the errors are looked for under the key with the name of the record
      refine .inl ⟨?_, fun w hw => ?_⟩
      · rw [isMisread, Fields.contains_eq, hname, Option.isSome_some, Bool.true_and]
        exact hasStrays_iff.mpr ⟨key, xs, hfind, List.ne_nil_of_mem hs⟩
      · obtain ⟨_, _, _, _, _, rfl⟩ := hstray w hw
        exact (way_of_held hname _).resolve_left fun hnil => hkept (hnil ▸ hw)
    | none =>
      refine .inr ⟨rfl, key, xs, hfind, fun w => ⟨fun hw => ?_, ?_⟩⟩
      · obtain ⟨key', xs', hfind', s, hs, rfl⟩ := hstray w hw
        rw [hfind] at hfind'
        cases hfind'
        exact ⟨s, hs, way_stray hname hfind hs⟩
      · rintro ⟨s, hs, rfl⟩
        exact (hways _).mpr (isInnermost_stray h hname hfind hs)

/-- A list that loses its elements that are no strings is left with the others. -/
theorem get?_pruneEntries_strays {key : String} {xs : List Value}
    (hget : inner.get? key = some (.list xs))
    (hways : ∀ w, w ∈ ways ↔ ∃ s ∈ strays xs, w = [.key key, .index s.2]) :
    Fields.get? (Value.pruneEntries ways inner) key = some (.list (xs.filter Value.isStr)) := by
  rw [Value.get?_pruneEntries, hget, if_neg, Option.map_some, Value.prune,
    Value.pruneItems_eq_filter]
  · rintro ⟨x, i⟩ hx
    rw [Value.mem_inside, hways, ← exists_stray_iff hx]
    simp [eq_comm]
  · -- the list itself is not dropped
    rw [List.contains_iff_mem, Value.mem_inside, hways]
    rintro ⟨s, -, heq⟩
    cases heq

/-- The other keys of a record are left as they are by ways that start with the key of a field. -/
theorem extrasOf_pruneEntries {α : Type} {r : RecordShape α} {key : String}
    (hways : ∀ w ∈ ways, ∃ rest, w = .key key :: rest)
    (hused : (r.fields.filterMap fun f => (f.find? (Value.pruneEntries ways inner)).map Prod.fst) =
      r.fields.filterMap fun f => (f.find? inner).map Prod.fst)
    (hkey : key ∈ r.fields.filterMap fun f => (f.find? inner).map Prod.fst) :
    extrasOf r (Value.pruneEntries ways inner) = extrasOf r inner := by
  unfold extrasOf
  dsimp only
  rw [hused]
  refine Value.filter_pruneEntries (fun _ _ _ => rfl) fun k v hk =>
    Value.inside_eq_nil hways fun heq => ?_
  simp only [Value.str?, Option.any_some, Bool.not_eq_true', List.contains_eq_mem,
    decide_eq_false_iff_not] at hk
  exact hk (heq ▸ hkey)

/-- An object that loses its names which are no strings keeps everything else. -/
theorem find?_pruneEntries_strays {key : String} {xs : List Value}
    (hfind : referenceToolIds.find? inner = some (key, .list xs))
    (hways : ∀ w, w ∈ ways ↔ ∃ s ∈ strays xs, w = [.key key, .index s.2]) :
    let left : Fields := Value.pruneEntries ways inner
    referenceToolIds.find? left = some (key, .list (xs.filter Value.isStr)) ∧
      toolset.find? left = toolset.find? inner ∧
      left.get? referenceShape.name = inner.get? referenceShape.name ∧
      extrasOf referenceShape left = extrasOf referenceShape inner := by
  intro left
  obtain ⟨hget, hspelling⟩ := FieldShape.find?_eq_some.mp hfind
  have hunder : ∀ w ∈ ways, ∃ rest, w = .key key :: rest := by
    intro w hw
    obtain ⟨s, -, rfl⟩ := (hways w).mp hw
    exact ⟨_, rfl⟩
  have hlist : left.get? key = some (.list (xs.filter Value.isStr)) :=
    get?_pruneEntries_strays hget hways
  have hfound : referenceToolIds.find? left = some (key, .list (xs.filter Value.isStr)) := by
    refine FieldShape.find?_eq_some.mpr ⟨hlist, hspelling.imp_right fun ⟨hkey, hnone⟩ => ⟨hkey, ?_⟩⟩
    have hne : referenceToolIds.key ≠ key := by
      rw [hkey]
      decide
    rw [Value.get?_pruneEntries_of_ne hunder hne, hnone]
  have hne : toolset.key ≠ key ∧ referenceShape.name ≠ key := by
    rcases hspelling with rfl | ⟨rfl, -⟩ <;> decide
  have htoolset : toolset.find? left = toolset.find? inner :=
    Value.find?_pruneEntries_of_ne hunder hne.1 hne.1
  refine ⟨hfound, htoolset, Value.get?_pruneEntries_of_ne hunder hne.2,
    extrasOf_pruneEntries hunder ?_ ?_⟩
  · show (referenceShape.fields.filterMap fun f => (f.find? left).map Prod.fst) = _
    simp only [referenceShape, List.filterMap_cons, List.filterMap_nil, htoolset, hfound, hfind,
      Option.map_some]
  · exact List.mem_filterMap.mpr ⟨referenceToolIds, List.mem_cons_of_mem _ List.mem_cons_self,
      by rw [hfind]; rfl⟩

/-- An object that loses something under the name of the record stays misread. -/
theorem isMisread_pruneEntries
    (hways : ∀ w ∈ ways, ∃ part tail, w = .key referenceShape.name :: part :: tail) :
    isMisread (Value.pruneEntries ways inner) = isMisread inner := by
  have hunder : ∀ w ∈ ways, ∃ rest, w = .key referenceShape.name :: rest := by
    intro w hw
    obtain ⟨part, tail, rfl⟩ := hways w hw
    exact ⟨_, rfl⟩
  have hheld : (Fields.get? (Value.pruneEntries ways inner) referenceShape.name).isSome =
      (inner.get? referenceShape.name).isSome := by
    rw [Value.get?_pruneEntries, if_neg, Option.isSome_map]
    rw [List.contains_iff_mem, Value.mem_inside]
    intro hmem
    obtain ⟨part, tail, heq⟩ := hways _ hmem
    cases heq
  have hfind : referenceToolIds.find? (Value.pruneEntries ways inner) =
      referenceToolIds.find? inner :=
    Value.find?_pruneEntries_of_ne hunder (by decide) (by decide)
  rw [isMisread, isMisread, Fields.contains_eq, Fields.contains_eq, hheld, hasStrays, hasStrays,
    FieldShape.value?, FieldShape.value?, hfind]

/-- No round of cleaning changes what is left of an element in the end. -/
theorem survivor?_prune (hv : v.IsJson)
    (hways : ∀ w, w ∈ ways ↔ IsInnermost (waysOf v (Shape.mixedErrors referenceShape v)) w)
    (hkept : [] ∉ ways) : survivor? (v.prune ways) = survivor? v := by
  cases v with
  | map inner =>
    rw [Value.prune]
    rcases ways_cases hv hways hkept with rfl | ⟨hmisread, hunder⟩ | ⟨hname, key, xs, hfind, hstrays⟩
    · rw [Value.pruneEntries_nil]
    · -- an object that is misread stays so, and is not left in the end
      have hmisread' : isMisread (Value.pruneEntries ways inner) = true :=
        (isMisread_pruneEntries hunder).trans hmisread
      simp only [survivor?, survives, hmisread, hmisread', Bool.not_true, Bool.and_false,
        Bool.false_eq_true, if_false]
    · -- the strings among the names of operations are those of the object before
      obtain ⟨hfound, htoolset, hname', hextras⟩ := find?_pruneEntries_strays hfind hstrays
      have hread : isMisread inner = false ∧
          isMisread (Value.pruneEntries ways inner) = false := by
        rw [isMisread, isMisread, Fields.contains_eq, Fields.contains_eq, hname', hname]
        exact ⟨rfl, rfl⟩
      have href : isReference (Value.pruneEntries ways inner) = isReference inner := by
        simp only [isReference, FieldShape.value?, htoolset, hfound, hfind, Option.map_some, holdsList]
      have htoolIds : textsOf referenceToolIds (Value.pruneEntries ways inner) =
          textsOf referenceToolIds inner := by
        simp only [textsOf, hfound, hfind, Option.bind_some, Shape.elements?, Option.map_some,
          filterMap_filter_isStr]
      simp only [survivor?, survives, toolsetEntry?, hread.1, hread.2, href, htoolIds, hextras,
        textOf, htoolset]
  | _ => rfl

/-- An element that fits stays. -/
theorem survives_of_fits (hv : v.IsJson) (h : Shape.mixedErrors referenceShape v = []) :
    survives v = true := by
  obtain ⟨entry, hentry, -⟩ := exists_toolsetEntry? h
  cases v with
  | str s => rfl
  | map inner =>
    have hnone := recordErrors_of_mixedErrors h
    have htoolset : holdsText (toolset.value? inner) = true := by
      unfold FieldShape.value?
      cases hfind : toolset.find? inner with
      | none => rfl
      | some found =>
        exact holdsText_of_errors (hv.of_get? (FieldShape.find?_eq_some.mp hfind).1)
          (errors_eq_nil_of_check hnone List.mem_cons_self hfind)
    have htoolIds : holdsList (referenceToolIds.value? inner) = true ∧ hasStrays inner = false := by
      unfold hasStrays FieldShape.value?
      cases hfind : referenceToolIds.find? inner with
      | none => exact ⟨rfl, rfl⟩
      | some found =>
        obtain ⟨hlist, hstrings⟩ := holdsList_of_errors
          (hv.of_get? (FieldShape.find?_eq_some.mp hfind).1)
          (errors_eq_nil_of_check hnone (List.mem_cons_of_mem _ List.mem_cons_self) hfind)
        refine ⟨hlist, ?_⟩
        dsimp only [Option.map_some]
        split
        · rename_i xs hxs
          simpa using hstrings xs (Option.some.inj hxs)
        · rfl
    rw [survives, isReference, isMisread, htoolset, htoolIds.1, htoolIds.2, Bool.and_false]
    rfl
  | _ => cases hentry

end Elements

section Rounds

variable {fields : Fields} {xs : List Value}

theorem toolsets_mem : toolsets ∈ agentShape.fields := by
  simp [agentShape]

/-- What is left of a list of toolsets: the same elements of it are left in the end. -/
def LeavesToolsets (xs : List Value) (left : Fields) : Prop :=
  (Value.map left).IsJson ∧ ∃ ys, toolsets.find? left = some (toolsets.key, .list ys) ∧
    ys.filterMap survivor? = xs.filterMap survivor?

/-- A round changes nothing about the elements that are left in the end. -/
theorem LeavesToolsets.round (h : LeavesToolsets xs fields) :
    LeavesToolsets xs (kept agentShape fields) := by
  obtain ⟨hjson, ys, hfind, hleft⟩ := h
  have hys : (Value.list ys).IsJson := hjson.of_get? (FieldShape.find?_eq_some.mp hfind).1
  obtain ⟨ways, hways, hkept⟩ := get?_kept_of_find? Kind.agent.spelled_shape hjson.hasStringKeys
    toolsets_mem hfind
  have hways : ∀ w, w ∈ ways ↔ IsInnermost (waysOf (.list ys)
      (Shape.elementErrors (Shape.mixedErrors referenceShape) ys)) w := hways
  rw [if_neg fun hnil => not_isInnermost_nil ((hways []).mp hnil)] at hkept
  refine ⟨hjson.prune _, _, find?_kept Kind.agent.spelled_shape hjson.hasStringKeys hfind hkept, ?_⟩
  rw [← hleft]
  refine filterMap_pruneItems hways (fun y hy hdropped => ?_) fun y hy inner hinner hnil =>
    survivor?_prune (hys.of_mem hy) hinner hnil
  rw [survivor?, survives_eq_false (hys.of_mem hy) hdropped]
  rfl

/-- Of a list of toolsets the entries are left of the elements that survive. -/
theorem find?_clean_toolsets (h : (Value.map fields).IsJson)
    (hfind : toolsets.find? fields = some (toolsets.key, .list xs)) {clean : Fields}
    {issues : List FieldIssue} (hclean : Cleaning.clean agentShape fields = .ok (clean, issues)) :
    ∃ ys, toolsets.find? clean = some (toolsets.key, .list ys) ∧
      ys.filterMap toolsetEntry? = xs.filterMap survivor? := by
  obtain ⟨⟨hjson, ys, hfound, hleft⟩, hcheck⟩ :=
    cleanFrom_induction (P := fun _ left => LeavesToolsets xs left) (fun _ _ _ hP => hP.round)
      h.hasStringKeys ⟨h, xs, hfind, rfl⟩ hclean
  have hys : (Value.list ys).IsJson := hjson.of_get? (FieldShape.find?_eq_some.mp hfound).1
  have hfits : Shape.elementErrors (Shape.mixedErrors referenceShape) ys = [] :=
    errors_eq_nil_of_check hcheck toolsets_mem hfound
  refine ⟨ys, hfound, ?_⟩
  rw [← hleft]
  -- what is left of the list fits, so that all of it survives
  refine List.filterMap_congr fun y hy => ?_
  rw [survivor?, survives_of_fits (hys.of_mem hy) (elementErrors_eq_nil.mp hfits y hy), if_pos rfl]

end Rounds

end Cleaning

namespace Manifest

/-- The entry of an element that is left has what the element says. -/
theorem exists_survivor? {v : Value} (h : survives v = true) :
    ∃ entry, survivor? v = some entry ∧ entry.Carries v := by
  rw [survivor?, if_pos h]
  cases v with
  | str s => exact ⟨_, rfl, rfl⟩
  | map inner =>
    refine ⟨_, rfl, inner, rfl, fun s => ?_, fun ids => ?_, rfl⟩
    · show textOf toolset inner = some s ↔ _
      unfold textOf FieldShape.value?
      cases toolset.find? inner with
      | none => simp
      | some found =>
        obtain ⟨key, v⟩ := found
        cases v <;> simp [Value.str?]
    · show textsOf referenceToolIds inner = some ids ↔ _
      have hlist : holdsList (referenceToolIds.value? inner) = true := by
        rw [survives, isReference] at h
        simp only [Bool.and_eq_true] at h
        exact h.1.2
      unfold textsOf
      unfold FieldShape.value? at hlist ⊢
      cases hfind : referenceToolIds.find? inner with
      | none => simp
      | some found =>
        obtain ⟨key, v⟩ := found
        rw [hfind] at hlist
        cases v with
        | null => simp [Shape.elements?]
        | list xs => simp [Shape.elements?, eq_comm]
        | _ => cases hlist
  | _ => cases h

/-- The entries that are left of a list have what the elements say that survive. -/
theorem forall₂_survivor? (xs : List Value) :
    List.Forall₂ ToolsetEntry.Carries (xs.filterMap survivor?) (xs.filter survives) := by
  induction xs with
  | nil => exact .nil
  | cons x xs ih =>
    cases hx : survives x with
    | true =>
      obtain ⟨entry, hentry, hcarries⟩ := exists_survivor? hx
      rw [List.filterMap_cons_some hentry, List.filter_cons_of_pos hx]
      exact .cons hcarries ih
    | false =>
      have hnone : survivor? x = none := by
        rw [survivor?, hx]
        rfl
      rw [List.filterMap_cons_none hnone, List.filter_cons_of_neg (by rw [hx]; decide)]
      exact ih

/-- An agent is loaded whatever its list of toolsets holds, if there is room for copying it. Of the
list those elements are left, in their order, that are strings or could be references, objects left
out whose names of operations are looked for under the name of the record; what is left of an object
has its name, the names of operations that are strings, and its other keys. -/
theorem exists_load_toolsets {fields : Fields} (h : (Value.map fields).IsJson) {xs : List Value}
    (hxs : fields.get? "toolsets" = some (.list xs)) {room : ℕ} (hroom : fields.copyCalls ≤ room) :
    ∃ manifest issues, load agentShape agent fields room = .ok (manifest, issues) ∧
      ∃ entries, manifest.toolsets = some entries ∧
        List.Forall₂ ToolsetEntry.Carries entries (xs.filter survives) := by
  obtain ⟨⟨clean, issues⟩, hclean⟩ := Cleaning.exists_cleanFrom (r := agentShape) h.hasStringKeys []
  have hfind : toolsets.find? fields = some (toolsets.key, .list xs) :=
    FieldShape.find?_eq_some.mpr ⟨hxs, .inl rfl⟩
  obtain ⟨ys, hfound, hentries⟩ := Cleaning.find?_clean_toolsets h hfind hclean
  refine ⟨agent clean, issues, load_eq_ok.mpr ⟨hroom, clean, hclean, rfl⟩,
    xs.filterMap survivor?, ?_, forall₂_survivor? xs⟩
  rw [← hentries]
  simp only [agent, hfound, Option.bind_some, Shape.elements?, Option.map_some]

section Shelf

/-- The fields of a reference that has the name of the record for a key. -/
def covered : Fields :=
  [(.str "toolset", .str "films"), (.str "toolIds", .list [.str "play", .int 1]),
   (.str "AgentToolsetRef", .map [(.str "toolIds", .list [.str "x", .str "y"])])]

/-- A list of toolsets: a name, a number, and references with a number among the names of operations,
for the name and under the name of the record. -/
def shelf : List Value :=
  [.str "maps", .int 7,
   .map [(.str "toolset", .str "books"), (.str "toolIds", .list [.int 1, .str "lend"]),
     (.str "str", .int 0)],
   .map [(.str "toolset", .int 5)], .map covered]

/-- Of the list a name and a reference are left. One that could be left is not. -/
theorem exists_load_toolsets_shelf :
    (Value.map [(.str "toolsets", .list shelf)]).IsJson ∧
      Fields.get? [(.str "toolsets", .list shelf)] "toolsets" = some (.list shelf) ∧
      shelf.filter survives =
        [.str "maps", .map [(.str "toolset", .str "books"),
          (.str "toolIds", .list [.int 1, .str "lend"]), (.str "str", .int 0)]] ∧
      isReference covered = true ∧ survives (.map covered) = false ∧
      Fields.copyCalls [(.str "toolsets", .list shelf)] ≤ callRoom ∧
      ∃ manifest issues,
        load agentShape agent [(.str "toolsets", .list shelf)] = .ok (manifest, issues) ∧
          ∃ entries, manifest.toolsets = some entries ∧
            List.Forall₂ ToolsetEntry.Carries entries (shelf.filter survives) := by
  have hjson : (Value.map [(.str "toolsets", .list shelf)]).IsJson := by
    simp [shelf, covered, Value.isStr, Value.str?]
  have hroom : Fields.copyCalls [(.str "toolsets", .list shelf)] ≤ callRoom := by decide
  exact ⟨hjson, rfl, rfl, rfl, rfl, hroom, exists_load_toolsets hjson rfl hroom⟩

end Shelf

end Manifest

end AgentPackage
