import AgentPackage.Proofs.Manifest.Keys

/-!
# Strings of manifests

A field that takes a string has two spellings, and a value that is no string is dropped under each
of them. What a manifest holds in such a field can therefore be told from the mapping as it was
written, without following the rounds of cleaning: the first spelling counts, unless its value was
dropped.

## Main definitions

* `Manifest.textIn`: the string that a mapping gives for a field;
* `Manifest.Mistyped`: a mapping has a value under a key that is no string;
* `Manifest.ReadsText`: what is loaded from a field, and what is reported of it.

## Main results

* `Cleaning.textIn_clean`: cleaning keeps to that string;
* `Manifest.textOf_clean`: a field of the cleaned mapping holds it;
* `Cleaning.followsText_clean`: when cleaning drops the values of the two spellings;
* `Manifest.readsText_of_load`: a field of a loaded manifest, and the issues that name it.
-/

namespace AgentPackage

/-- The string that a mapping gives for a field: the one under the first spelling, or under the
second if the first has no value or one that does not fit. An empty value fits. -/
def Manifest.textIn {α : Type} (f : FieldShape α) (fields : Fields) : Option String :=
  match fields.get? f.key with
  | some (.str s) => some s
  | some .null => none
  | _ => (fields.get? f.otherKey).bind Value.str?

/-- The mapping has a value under the key that is neither a string nor empty. -/
def Manifest.Mistyped (fields : Fields) (key : String) : Prop :=
  ∃ v, fields.get? key = some v ∧ v ≠ .null ∧ v.isStr = false

namespace Manifest

variable {α : Type} {f : FieldShape α} {fields : Fields} {key : String} {v : Value}

/-- Without a value under the first spelling the second one counts. -/
theorem textIn_of_get?_eq_none (h : fields.get? f.key = none) :
    textIn f fields = (fields.get? f.otherKey).bind Value.str? := by
  rw [textIn, h]

/-- A value under the first spelling that does not fit leaves the second one to count. -/
theorem textIn_of_misfit (h : fields.get? f.key = some v) (hv : LeafShape.text.errors v ≠ []) :
    textIn f fields = (fields.get? f.otherKey).bind Value.str? := by
  rw [textIn, h]
  -- strings and the empty value fit
  cases v with
  | null | str => exact absurd rfl hv
  | _ => rfl

/-- A value does not fit if it is neither a string nor empty. -/
theorem errors_text_ne_nil_iff : LeafShape.text.errors v ≠ [] ↔ v ≠ .null ∧ v.isStr = false := by
  cases v <;> simp [LeafShape.errors, Shape.textErrors, FieldError.here, Value.isStr, Value.str?]

/-- A value that does not fit is no string. -/
theorem str?_of_misfit (hv : LeafShape.text.errors v ≠ []) : v.str? = none := by
  cases v with
  | str => exact absurd rfl hv
  | _ => rfl

/-- Where the value that is found for a field fits, it is what the mapping gives. -/
theorem textOf_eq_textIn
    (h : ∀ key v, f.find? fields = some (key, v) → LeafShape.text.errors v = []) :
    textOf f fields = textIn f fields := by
  unfold textOf textIn
  cases hkey : fields.get? f.key with
  | none => cases hother : fields.get? f.otherKey <;> simp [FieldShape.find?, hkey, hother]
  | some v =>
    have hfind : f.find? fields = some (f.key, v) := by simp [FieldShape.find?, hkey]
    rw [hfind]
    -- what fits is a string or the empty value
    have hfits := h _ _ hfind
    cases v with
    | null | str => rfl
    | _ => cases hfits

end Manifest

namespace Cleaning

open Manifest

variable {r : RecordShape Shape} {f : FieldShape Shape} {fields clean : Fields} {key : String}
  {v : Value} {issues : List FieldIssue}

section Round

variable (hr : r.Spelled) (hkeys : fields.HasStringKeys) (hf : f ∈ r.fields)

include hr hkeys hf

/-- A spelling under which the field is not found keeps its value in a round. -/
theorem get?_kept_of_spelling (hkey : f.key = key ∨ f.otherKey = key)
    (hfind : ∀ v, f.find? fields ≠ some (key, v)) :
    Fields.get? (kept r fields) key = fields.get? key := by
  refine get?_kept_of_forall_ne hr hkeys fun d hd heq => ?_
  -- what is dropped was found for a field, which is this one by its spelling
  obtain ⟨g, hg, v, hgfind, -⟩ := exists_of_mem_dropped hr hkeys hd
  rw [heq] at hgfind
  have hsame : g = f := Option.some.inj <|
    (hr.find?_fields hg (FieldShape.key_of_find? hgfind)).symm.trans (hr.find?_fields hf hkey)
  exact hfind v (hsame ▸ hgfind)

variable (hshape : f.shape = .leaf .text) (hfind : f.find? fields = some (key, v))

include hshape hfind

/-- A value that fits is kept in a round. -/
theorem get?_kept_of_fits (hv : LeafShape.text.errors v = []) :
    Fields.get? (kept r fields) key = some v := by
  have hds : (dropped r fields).filter (fun d => d.issue.field == key) = [] := by
    have herrors : f.shape.errors v = [] := by rw [hshape]; exact hv
    rw [filter_dropped hr hkeys hf hfind, herrors]
    rfl
  rw [get?_kept hr hkeys hds, (FieldShape.find?_eq_some.mp hfind).1]
  simp [Value.inside, Value.prune_nil]

/-- A value that does not fit is dropped in a round. -/
theorem get?_kept_of_misfit (hv : LeafShape.text.errors v ≠ []) :
    Fields.get? (kept r fields) key = none := by
  -- there is one error, at the value itself
  obtain ⟨e, herrors, hlocation⟩ : ∃ e, LeafShape.text.errors v = [e] ∧ e.location = [] := by
    cases v with
    | null | str => exact absurd rfl hv
    | _ => exact ⟨_, rfl, rfl⟩
  have hds : (dropped r fields).filter (fun d => d.issue.field == key) = [dropAt key v e] := by
    have herrors : f.shape.errors v = [e] := by rw [hshape]; exact herrors
    rw [filter_dropped hr hkeys hf hfind, herrors]
    simp [distinct, innermost]
  have htarget : (dropAt key v e).target = [.key key] := by
    rw [dropAt, hlocation]
    rfl
  rw [get?_kept hr hkeys hds, if_pos]
  simp [htarget, Value.inside]

end Round

/-- A round does not change the string that a mapping gives for a field. -/
theorem textIn_kept (hr : r.Spelled) (hkeys : fields.HasStringKeys) (hf : f ∈ r.fields)
    (hshape : f.shape = .leaf .text) : textIn f (kept r fields) = textIn f fields := by
  cases hkey : fields.get? f.key with
  | none =>
    -- the second spelling counts before and after
    have hkept : Fields.get? (kept r fields) f.key = none := by
      rw [get?_kept_of_spelling hr hkeys hf (.inl rfl), hkey]
      intro v hfind
      exact absurd (FieldShape.find?_eq_some.mp hfind).1 (by simp [hkey])
    rw [textIn_of_get?_eq_none hkept, textIn_of_get?_eq_none hkey]
    cases hother : fields.get? f.otherKey with
    | none =>
      rw [get?_kept_of_spelling hr hkeys hf (.inr rfl), hother]
      intro v hfind
      exact absurd (FieldShape.find?_eq_some.mp hfind).1 (by simp [hother])
    | some v =>
      have hfind : f.find? fields = some (f.otherKey, v) :=
        FieldShape.find?_eq_some.mpr ⟨hother, .inr ⟨rfl, hkey⟩⟩
      by_cases hv : LeafShape.text.errors v = []
      · rw [get?_kept_of_fits hr hkeys hf hshape hfind hv]
      · rw [get?_kept_of_misfit hr hkeys hf hshape hfind hv, Option.bind_none, Option.bind_some,
          str?_of_misfit hv]
  | some v =>
    have hfind : f.find? fields = some (f.key, v) :=
      FieldShape.find?_eq_some.mpr ⟨hkey, .inl rfl⟩
    by_cases hv : LeafShape.text.errors v = []
    · rw [textIn, textIn, get?_kept_of_fits hr hkeys hf hshape hfind hv, hkey]
      -- what fits settles the field, whatever stands under the second spelling
      cases v with
      | null | str => rfl
      | _ => cases hv
    · have hkept := get?_kept_of_misfit hr hkeys hf hshape hfind hv
      rw [textIn_of_get?_eq_none hkept, textIn_of_misfit hkey hv]
      by_cases hsame : f.otherKey = f.key
      · -- with one spelling for both nothing is left
        rw [hsame, hkept, hkey, Option.bind_none, Option.bind_some, str?_of_misfit hv]
      · rw [get?_kept_of_spelling hr hkeys hf (.inr rfl)]
        intro w hw
        rw [hfind] at hw
        exact hsame (congrArg Prod.fst (Option.some.inj hw)).symm

/-- Cleaning does not change the string that a mapping gives for a field. -/
theorem textIn_clean (hr : r.Spelled) (hkeys : fields.HasStringKeys)
    (h : Cleaning.clean r fields = .ok (clean, issues)) (hf : f ∈ r.fields)
    (hshape : f.shape = .leaf .text) : textIn f clean = textIn f fields :=
  (cleanFrom_induction (P := fun _ left => textIn f left = textIn f fields)
    (fun _ _ hkeys' hP => (textIn_kept hr hkeys' hf hshape).trans hP) hkeys rfl h).1

/-- What cleaning has done so far to the values of a field that takes a string. -/
structure FollowsText (r : RecordShape Shape) (f : FieldShape Shape) (fields : Fields)
    (issues : List FieldIssue) (left : Fields) : Prop where
  /-- What has been reported accounts for what was changed. -/
  explains : Explains r fields issues left
  /-- Under the first spelling the value is still there, or nothing is left. -/
  key : left.get? f.key = fields.get? f.key ∨ left.get? f.key = none
  /-- The second spelling is named only if the first one does not count. -/
  otherKey : ∀ i ∈ issues, i.field = f.otherKey →
    fields.get? f.key = none ∨ Mistyped fields f.key

section Follows

variable (hr : r.Spelled) (hf : f ∈ r.fields) (hshape : f.shape = .leaf .text)

include hr hf hshape

/-- An issue that names a spelling of the field is about a value that is no string. -/
theorem Explains.mistyped {left : Fields} (h : Explains r fields issues left) {i : FieldIssue}
    (hi : i ∈ issues) (hkey : f.key = i.field ∨ f.otherKey = i.field) :
    Mistyped fields i.field := by
  obtain ⟨g, hg, hgkey, v, hv, hmisfit⟩ := h.2 i hi
  obtain rfl : g = f := Option.some.inj <|
    (hr.find?_fields hg hgkey).symm.trans (hr.find?_fields hf hkey)
  rw [hshape] at hmisfit
  exact ⟨v, hv, errors_text_ne_nil_iff.mp hmisfit⟩

/-- A round names the second spelling only if there is nothing under the first one, or nothing is left
there. -/
theorem FollowsText.round {left : Fields} (hkeys : left.HasStringKeys)
    (h : FollowsText r f fields issues left) :
    FollowsText r f fields (issues ++ (dropped r left).map Drop.issue) (kept r left) := by
  have hexplains := h.explains.round hr hkeys
  refine ⟨hexplains, ?_, ?_⟩
  · cases hkey : left.get? f.key with
    | none => exact .inr (by rw [get?_kept hr hkeys rfl, hkey, Option.map_none, ite_self])
    | some v =>
      have hfind : f.find? left = some (f.key, v) :=
        FieldShape.find?_eq_some.mpr ⟨hkey, .inl rfl⟩
      by_cases hv : LeafShape.text.errors v = []
      · rw [get?_kept_of_fits hr hkeys hf hshape hfind hv, ← hkey]
        exact h.key
      · exact .inr (get?_kept_of_misfit hr hkeys hf hshape hfind hv)
  · intro i hi hfield
    rcases List.mem_append.mp hi with hbefore | hnew
    · exact h.otherKey i hbefore hfield
    · obtain ⟨d, hd, rfl⟩ := List.mem_map.mp hnew
      obtain ⟨g, hg, v, hgfind, -⟩ := exists_of_mem_dropped hr hkeys hd
      obtain rfl : g = f := Option.some.inj <|
        (hr.find?_fields hg (FieldShape.key_of_find? hgfind)).symm.trans
          (hr.find?_fields hf (.inr hfield.symm))
      rcases (FieldShape.find?_eq_some.mp hgfind).2 with hfirst | ⟨-, hnone⟩
      · -- with one spelling for both this value was dropped itself
        exact .inr (hfirst ▸ hexplains.mistyped hr hf hshape hi (.inr hfield.symm))
      · -- nothing is left under the first spelling, so it was empty or has been named
        by_cases hnamed : ∃ i ∈ issues, i.field = g.key
        · obtain ⟨j, hj, hjkey⟩ := hnamed
          exact .inr (hjkey ▸ h.explains.mistyped hr hf hshape hj (.inl hjkey.symm))
        · push Not at hnamed
          exact .inl ((h.explains.1 g.key hnamed).symm.trans hnone)

/-- Cleaning drops the value under the first spelling exactly if it is no string, and that under the
second spelling exactly if it is no string and the first one does not count. -/
theorem followsText_clean (hkeys : fields.HasStringKeys)
    (h : Cleaning.clean r fields = .ok (clean, issues)) :
    ((∃ i ∈ issues, i.field = f.key) ↔ Mistyped fields f.key) ∧
      ((∃ i ∈ issues, i.field = f.otherKey) ↔ Mistyped fields f.otherKey ∧
        (fields.get? f.key = none ∨ Mistyped fields f.key)) := by
  obtain ⟨hfollows, hcheck⟩ := cleanFrom_induction (P := FollowsText r f fields)
    (fun _ _ hkeys' hP => hP.round hr hf hshape hkeys') hkeys
    ⟨⟨fun _ _ => rfl, List.forall_mem_nil _⟩, .inl rfl, List.forall_mem_nil _⟩ h
  -- all values that are left fit
  have hfits : ∀ key v, f.find? clean = some (key, v) → v ≠ .null → v.isStr ≠ false := by
    intro key v hfind hnull hstr
    have herrors := errors_eq_nil_of_check hcheck hf hfind
    rw [hshape] at herrors
    exact errors_text_ne_nil_iff.mpr ⟨hnull, hstr⟩ herrors
  have hkey : Mistyped fields f.key → clean.get? f.key = none := by
    rintro ⟨v, hv, hnull, hstr⟩
    refine hfollows.key.resolve_left fun heq => ?_
    have hfind : f.find? clean = some (f.key, v) :=
      FieldShape.find?_eq_some.mpr ⟨heq.trans hv, .inl rfl⟩
    exact hfits _ _ hfind hnull hstr
  refine ⟨⟨?_, ?_⟩, ?_, ?_⟩
  · rintro ⟨i, hi, hfield⟩
    exact hfield ▸ hfollows.explains.mistyped hr hf hshape hi (.inl hfield.symm)
  · intro hmistyped
    by_contra hnamed
    push Not at hnamed
    have hnone : fields.get? f.key = none :=
      (hfollows.explains.1 f.key hnamed).symm.trans (hkey hmistyped)
    obtain ⟨v, hv, -⟩ := hmistyped
    cases hnone.symm.trans hv
  · rintro ⟨i, hi, hfield⟩
    exact ⟨hfield ▸ hfollows.explains.mistyped hr hf hshape hi (.inr hfield.symm),
      hfollows.otherKey i hi hfield⟩
  · rintro ⟨⟨v, hv, hnull, hstr⟩, hfirst⟩
    by_contra hnamed
    push Not at hnamed
    have hnone : clean.get? f.key = none :=
      hfirst.elim (fun hnone => hfollows.key.elim (fun heq => heq.trans hnone) id) hkey
    have hfind : f.find? clean = some (f.otherKey, v) :=
      FieldShape.find?_eq_some.mpr
        ⟨(hfollows.explains.1 f.otherKey hnamed).trans hv, .inr ⟨rfl, hnone⟩⟩
    exact hfits _ _ hfind hnull hstr

end Follows

end Cleaning

/-- A field of the cleaned mapping holds the string that the mapping gives for it. -/
theorem Manifest.textOf_clean {r : RecordShape Shape} {f : FieldShape Shape} {fields clean : Fields}
    {issues : List FieldIssue} (hr : r.Spelled) (hkeys : fields.HasStringKeys)
    (h : Cleaning.clean r fields = .ok (clean, issues)) (hf : f ∈ r.fields)
    (hshape : f.shape = .leaf .text) : textOf f clean = textIn f fields := by
  rw [← Cleaning.textIn_clean hr hkeys h hf hshape]
  refine textOf_eq_textIn fun key v hfind => ?_
  -- all values that are left fit
  have hfits := Cleaning.errors_eq_nil_of_check (Cleaning.explains_clean hr hkeys h).2 hf hfind
  rwa [hshape] at hfits

/-- What is loaded from a field that takes a string, and what is reported of it: the string that the
mapping gives, and the values that are none. The second spelling is looked at only if the first one
does not count. -/
structure Manifest.ReadsText (f : FieldShape Shape) (fields : Fields) (value : Option String)
    (issues : List FieldIssue) : Prop where
  /-- The string is the one that the mapping gives. -/
  value : value = textIn f fields
  /-- An issue names the first spelling if its value is no string. -/
  key : (∃ i ∈ issues, i.field = f.key) ↔ Mistyped fields f.key
  /-- An issue names the second spelling if its value is no string and the first one does not
  count. -/
  otherKey : (∃ i ∈ issues, i.field = f.otherKey) ↔
    Mistyped fields f.otherKey ∧ (fields.get? f.key = none ∨ Mistyped fields f.key)

/-- A manifest that was loaded holds what its mapping gives for a field. -/
theorem Manifest.readsText_of_load {α : Type} {r : RecordShape Shape} {build : Fields → α}
    {fields : Fields} {record : α} {issues : List FieldIssue} {room : ℕ} (hr : r.Spelled)
    (h : load r build fields room = .ok (record, issues)) {f : FieldShape Shape} (hf : f ∈ r.fields)
    (hshape : f.shape = .leaf .text) :
    ∃ clean, record = build clean ∧ ReadsText f fields (textOf f clean) issues := by
  obtain ⟨-, clean, hclean, rfl⟩ := load_eq_ok.mp h
  have hkeys := Cleaning.hasStringKeys_of_clean hclean
  obtain ⟨hkey, hotherKey⟩ := Cleaning.followsText_clean hr hf hshape hkeys hclean
  exact ⟨clean, rfl, textOf_clean hr hkeys hclean hf hshape, hkey, hotherKey⟩

end AgentPackage
