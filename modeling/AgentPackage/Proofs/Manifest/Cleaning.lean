import AgentPackage.Manifest.Kinds
import AgentPackage.Proofs.Except

/-!
# What cleaning reports

A mapping that is loaded as a manifest loses the values that do not fit, and each loss is reported.
A manifest that comes without an issue therefore has lost nothing: it is made of the mapping as it
was written.

## Main results

* `Cleaning.clean_eq_ok_nil`: cleaning reports nothing exactly when every value fits;
* `Manifest.load_eq_ok`: what is loaded from a mapping is what is left of it;
* `Manifest.load_eq_ok_nil`: the manifest of a mapping in which every value fits.
-/

namespace AgentPackage

namespace Value

/-- No way of an empty list starts with a given step. -/
@[simp]
theorem inside_nil (p : Part) : inside [] p = [] := rfl

mutual

/-- Where nothing is to be dropped a value stays as it is. -/
theorem prune_nil : ∀ v : Value, prune [] v = v
  | .list xs => by rw [prune, pruneItems_nil]
  | .map es => by rw [prune, pruneEntries_nil]
  | .null | .bool _ | .int _ | .float _ | .str _ | .date _ | .dateTime _ | .bytes _ | .tuple _
  | .set _ => rfl

/-- Where nothing is to be dropped the items of a list stay as they are. -/
theorem pruneItems_nil : ∀ (i : Nat) (xs : List Value), pruneItems [] i xs = xs
  | _, [] => rfl
  | i, x :: xs => by simp [pruneItems, prune_nil x, pruneItems_nil (i + 1) xs]

/-- Where nothing is to be dropped the entries of a mapping stay as they are. -/
theorem pruneEntries_nil : ∀ es : List (Value × Value), pruneEntries [] es = es
  | [] => rfl
  | (.str key, v) :: es => by simp [pruneEntries, prune_nil v, pruneEntries_nil es]
  | (.null, _) :: es | (.bool _, _) :: es | (.int _, _) :: es | (.float _, _) :: es
  | (.date _, _) :: es | (.dateTime _, _) :: es | (.bytes _, _) :: es | (.list _, _) :: es
  | (.tuple _, _) :: es | (.set _, _) :: es | (.map _, _) :: es => by
    -- an entry whose key is no text is never dropped
    rw [pruneEntries, pruneEntries_nil es]
    simp

end

end Value

namespace Cleaning

variable {r : RecordShape Shape}

/-- The issues found before stay in front, and cleaning a mapping that does not fit adds to them. -/
theorem cleanFrom_eq_ok {issues issues' : List FieldIssue} {fields clean : Fields}
    (h : cleanFrom r issues fields = .ok (clean, issues')) :
    ∃ more, issues' = issues ++ more ∧ (more = [] → r.check fields = [] ∧ clean = fields) := by
  -- along the rounds of cleaning; the issues of a round stay in front of those of later ones
  induction issues, fields using cleanFrom.induct r with
  | case1 issues fields hcheck =>
    rw [cleanFrom, hcheck] at h
    cases h
    exact ⟨[], (List.append_nil _).symm, fun _ => ⟨hcheck, rfl⟩⟩
  | case2 issues fields hcheck ds rest hsmaller ih =>
    rw [cleanFrom] at h
    split at h
    · rename_i hnil
      exact absurd hnil hcheck
    · rw [dif_pos hsmaller] at h
      obtain ⟨more, rfl, -⟩ := ih h
      refine ⟨ds.map Drop.issue ++ more, List.append_assoc _ _ _, fun hnil => ?_⟩
      -- without a value to drop nothing would have become smaller
      have hds : ds = [] := List.map_eq_nil_iff.mp (List.append_eq_nil_iff.mp hnil).1
      have hrest : rest = fields := by
        show Value.pruneEntries (ds.map Drop.target) fields = fields
        rw [hds, List.map_nil, Value.pruneEntries_nil]
      rw [hrest] at hsmaller
      exact absurd hsmaller (Nat.lt_irrefl _)
  | case3 issues fields hcheck ds rest hsmaller =>
    -- a round that makes nothing smaller is given up
    rw [cleanFrom] at h
    split at h
    · rename_i hnil
      exact absurd hnil hcheck
    · rw [dif_neg hsmaller] at h
      cases h

/-- Cleaning reports nothing exactly when every value fits, and then changes nothing. -/
theorem clean_eq_ok_nil {fields clean : Fields} :
    Cleaning.clean r fields = .ok (clean, []) ↔ r.check fields = [] ∧ clean = fields := by
  constructor
  · intro h
    obtain ⟨more, hmore, hclean⟩ := cleanFrom_eq_ok h
    exact hclean hmore.symm
  · rintro ⟨hcheck, rfl⟩
    rw [Cleaning.clean, cleanFrom, hcheck]

/-- What cleaning reports is nothing exactly when every value fits. -/
theorem issues_eq_nil_iff {fields clean : Fields} {issues : List FieldIssue}
    (h : Cleaning.clean r fields = .ok (clean, issues)) : issues = [] ↔ r.check fields = [] := by
  constructor
  · rintro rfl
    exact (clean_eq_ok_nil.mp h).1
  · intro hcheck
    cases h.symm.trans (clean_eq_ok_nil.mpr ⟨hcheck, rfl⟩)
    rfl

end Cleaning

section Load

variable {α : Type} {shape : RecordShape Shape} {build : Fields → α} {fields : Fields} {room : Nat}

/-- What is loaded from a mapping is what is left of it, if there is room for copying it. -/
theorem Manifest.load_eq_ok {manifest : α} {issues : List FieldIssue} :
    Manifest.load shape build fields room = .ok (manifest, issues) ↔
      fields.copyCalls ≤ room ∧
        ∃ clean, Cleaning.clean shape fields = .ok (clean, issues) ∧ manifest = build clean := by
  unfold Manifest.load
  split
  · rename_i hroom
    exact ⟨fun h => (nomatch h), fun h => absurd h.1 (Nat.not_le.mpr hroom)⟩
  · rename_i hroom
    refine ⟨fun h => ⟨Nat.not_lt.mp hroom, ?_⟩, ?_⟩
    · obtain ⟨⟨clean, issues'⟩, hclean, h⟩ := Except.bind_eq_ok.mp h
      cases h
      exact ⟨clean, hclean, rfl⟩
    · rintro ⟨-, clean, hclean, rfl⟩
      exact Except.bind_eq_ok.mpr ⟨_, hclean, rfl⟩

/-- Loading a mapping fails where there is no room for copying it. -/
theorem Manifest.load_eq_tooDeep (h : room < fields.copyCalls) :
    Manifest.load shape build fields room = .error (.tooDeep .object) :=
  if_pos h

/-- Where there is room for copying a mapping, loading it fails as cleaning it does. -/
theorem Manifest.load_eq_error (h : fields.copyCalls ≤ room) {e : Failure}
    (hclean : Cleaning.clean shape fields = .error e) :
    Manifest.load shape build fields room = .error e := by
  unfold Manifest.load
  rw [if_neg (Nat.not_lt.mpr h), hclean]
  rfl

/-- A manifest comes without an issue exactly when every value of its mapping fits, and then it is
that of the whole mapping. -/
theorem Manifest.load_eq_ok_nil {manifest : α} :
    Manifest.load shape build fields room = .ok (manifest, []) ↔
      fields.copyCalls ≤ room ∧ shape.check fields = [] ∧ manifest = build fields := by
  rw [Manifest.load_eq_ok]
  refine and_congr_right fun _ => ⟨?_, ?_⟩
  · rintro ⟨clean, hclean, rfl⟩
    obtain ⟨hcheck, rfl⟩ := Cleaning.clean_eq_ok_nil.mp hclean
    exact ⟨hcheck, rfl⟩
  · rintro ⟨hcheck, rfl⟩
    exact ⟨fields, Cleaning.clean_eq_ok_nil.mpr ⟨hcheck, rfl⟩, rfl⟩

end Load

end AgentPackage
