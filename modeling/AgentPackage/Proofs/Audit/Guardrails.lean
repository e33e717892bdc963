import AgentPackage.Audit.Rules.GuardrailReferences
import AgentPackage.Proofs.Audit.Report
import AgentPackage.Proofs.Document
import AgentPackage.Proofs.Findings
import AgentPackage.Proofs.Manifest.Records
import AgentPackage.Proofs.Manifest.Texts
import AgentPackage.Proofs.Package.Index
import AgentPackage.Proofs.Text.Blanks

/-!
# References to guardrails

A guardrail that the manifest of a package names has its manifest in the first of four places that
is a file. What becomes of the reference is one of four outcomes, which this module states by what
that file holds. The rule about guardrails reports one outcome for each reference, so that what it
reports as missing, reports as invalid and counts adds up to the references that there are.

## Main definitions

* `Package.FirstFile`: the first of some paths at which a package has a file;
* `Guardrail.places`: where the manifest of a guardrail is looked for;
* `GuardrailOutcome.Decided`: what becomes of a reference to a guardrail;
* `Rule.AccountsForGuardrails`: findings tell what becomes of some references.

## Main results

* `Guardrail.resolve_eq_ok_iff`, `Guardrail.resolve_eq_error_iff`: the manifest that is found;
* `Rule.guardrailReference_settles`: what is reported of a reference is its outcome;
* `Rule.guardrails_accounted`: the rule accounts for all references.
-/

namespace AgentPackage

open Findings

/-- The first of some paths at which the package has a file, if there is one. -/
inductive Package.FirstFile (t : FileTree) (p : Package) (paths : List Path) : Option Path → Prop
    where
  /-- There is a file at none of the paths. -/
  | none (h : ∀ c ∈ paths, p.hasFile t c = .ok false) : FirstFile t p paths none
  /-- There is a file at a path, and none at those before it. -/
  | some {before after : List Path} {c : Path} (hpaths : paths = before ++ c :: after)
      (hbefore : ∀ c ∈ before, p.hasFile t c = .ok false) (hc : p.hasFile t c = .ok true) :
      FirstFile t p paths (some c)

namespace Package

variable {t : FileTree} {p : Package} {paths : List Path}

/-- A search for a file among paths ends with the first one, if there is one. -/
theorem findM?_hasFile_eq_ok_iff {found : Option Path} :
    paths.findM? (p.hasFile t) = .ok found ↔ p.FirstFile t paths found := by
  cases found with
  | none =>
    rw [Except.findM?_eq_none_iff]
    exact ⟨.none, fun | .none h => h⟩
  | some c =>
    rw [Except.findM?_eq_some_iff]
    constructor
    · exact fun ⟨_, _, hpaths, hbefore, hc⟩ => .some hpaths hbefore hc
    · exact fun | .some hpaths hbefore hc => ⟨_, _, hpaths, hbefore, hc⟩

end Package

namespace Guardrail

variable {t : FileTree} {p : Package} {reference other : String}

/-- Where the manifest of a guardrail is looked for, in that order: in a folder with the name of the
reference, beside such a folder, and then in the same way with the other spelling. -/
def places (root : Path) (reference other : String) : List Path :=
  let folder := root.entry folderName
  [(folder.child reference).child (reference ++ ".json"), folder.child (reference ++ ".json"),
    (folder.child other).child (other ++ ".json"), folder.child (other ++ ".json")]

/-- The other spelling of a reference has an underscore for each run of blanks. -/
def IsOther (reference other : String) : Prop :=
  Text.RunsReplaced '_' reference.toList other.toList

theorem isOther_iff :
    IsOther reference other ↔
      other = String.ofList (Text.replaceBlankRuns '_' false reference.toList) := by
  rw [IsOther, Text.runsReplaced_iff, ← String.ofList_inj, String.ofList_toList, eq_comm]

theorem exists_isOther (reference : String) : ∃ other, IsOther reference other :=
  ⟨_, isOther_iff.mpr rfl⟩

/-- A guardrail is looked for in the four places, whether or not its spellings differ. -/
theorem resolve_eq_findM? (h : IsOther reference other) :
    resolve t p reference = (places p.root reference other).findM? (p.hasFile t) := by
  unfold resolve candidates spellings
  dsimp only
  rw [← isOther_iff.mp h]
  by_cases hsame : other = reference
  · -- with one spelling the last two places are the first two again
    subst hsame
    rw [beq_self_eq_true, if_pos rfl, ← Except.findM?_append_self]
    rfl
  · rw [if_neg (by simpa using hsame)]
    rfl

/-- The manifest of a guardrail is found in the first of the four places at which there is a file,
and there is none if there is a file at none of them. -/
theorem resolve_eq_ok_iff (h : IsOther reference other) {found : Option Path} :
    resolve t p reference = .ok found ↔
      p.FirstFile t (places p.root reference other) found := by
  rw [resolve_eq_findM? h, Package.findM?_hasFile_eq_ok_iff]

/-- Looking for the manifest of a guardrail fails at a place where it cannot be told whether there
is a file, behind places at which there is none. -/
theorem resolve_eq_error_iff (h : IsOther reference other) {f : Failure} :
    resolve t p reference = .error f ↔
      ∃ before c after, places p.root reference other = before ++ c :: after ∧
        (∀ c ∈ before, p.hasFile t c = .ok false) ∧ p.hasFile t c = .error f := by
  rw [resolve_eq_findM? h, Except.findM?_eq_error_iff]

/-- The file in which a package has the manifest of the guardrail that a reference names, if it has
one. -/
def Resolves (t : FileTree) (p : Package) (reference : String) (found : Option Path) : Prop :=
  ∃ other, IsOther reference other ∧ p.FirstFile t (places p.root reference other) found

theorem resolves_iff {found : Option Path} :
    Resolves t p reference found ↔ resolve t p reference = .ok found := by
  constructor
  · exact fun ⟨_, hother, hfirst⟩ => (resolve_eq_ok_iff hother).mpr hfirst
  · intro h
    obtain ⟨other, hother⟩ := exists_isOther reference
    exact ⟨other, hother, (resolve_eq_ok_iff hother).mp h⟩

end Guardrail

/-- What becomes of a reference to a guardrail. -/
inductive GuardrailOutcome where
  /-- The guardrail has no manifest. -/
  | missing
  /-- The manifest of the guardrail is no mapping. -/
  | malformed
  /-- The manifest of the guardrail gives no name, or that of the reference. -/
  | resolved
  /-- The manifest of the guardrail gives another name. -/
  | renamed
  deriving DecidableEq, Repr

namespace GuardrailOutcome

variable {t : FileTree} {p : Package} {reference : String} {o o' : GuardrailOutcome}

/-- The code and the severity of the issue about an outcome, if there is one. -/
def told : GuardrailOutcome → List (String × Severity)
  | missing => [("CES_GUARDRAIL_REFERENCE_MISSING", .error)]
  | malformed => [("CES_GUARDRAIL_JSON_INVALID", .error)]
  | resolved => []
  | renamed => [("CES_GUARDRAIL_DISPLAYNAME_MISMATCH", .warning)]

/-- What is counted of an outcome. -/
def counts : GuardrailOutcome → List (String × Int)
  | missing | malformed => []
  | resolved | renamed => [("guardrails_resolved", 1)]

/-- Whether a code is that of an outcome. -/
def isCode (code : String) : Bool :=
  [missing, malformed, renamed].any fun o => o.told.any fun x => x.1 == code

/-- What becomes of a reference to a guardrail whose manifest is a mapping. It gives another name if
it gives one at all, and blanks at the ends of the two do not matter. -/
def ofFields (reference : String) (fields : Fields) : GuardrailOutcome :=
  match Manifest.textIn Manifest.displayName fields with
  | none => resolved
  | some name => if Text.trim name = Text.trim reference then resolved else renamed

/-- What becomes of a reference to a guardrail, by what the file of its manifest holds. -/
inductive Decided (t : FileTree) (p : Package) (reference : String) : GuardrailOutcome → Prop where
  /-- There is no file in any of the places. -/
  | missing (hnone : Guardrail.Resolves t p reference none) : Decided t p reference missing
  /-- The file is no mapping. -/
  | malformed {file : Path} (hfile : Guardrail.Resolves t p reference (some file))
      (hvalue : ∀ fields, ¬ Document.Denotes t (some .json) file (.map fields)) :
      Decided t p reference malformed
  /-- The file is a mapping. -/
  | read {file : Path} {fields : Fields} (hfile : Guardrail.Resolves t p reference (some file))
      (hvalue : Document.Denotes t (some .json) file (.map fields)) :
      Decided t p reference (ofFields reference fields)

/-- There is one outcome at most. -/
theorem Decided.unique (h : Decided t p reference o) (h' : Decided t p reference o') : o = o' := by
  have hsame : ∀ {found found'}, Guardrail.Resolves t p reference found →
      Guardrail.Resolves t p reference found' → found = found' := fun h h' =>
    Except.ok.inj ((Guardrail.resolves_iff.mp h).symm.trans (Guardrail.resolves_iff.mp h'))
  cases h with
  | missing hnone =>
    cases h' with
    | missing _ => rfl
    | malformed hfile _ => cases hsame hnone hfile
    | read hfile _ => cases hsame hnone hfile
  | malformed hfile hvalue =>
    cases h' with
    | missing hnone => cases hsame hfile hnone
    | malformed _ _ => rfl
    | read hfile' hvalue' =>
      cases hsame hfile hfile'
      exact absurd hvalue' (hvalue _)
  | read hfile hvalue =>
    cases h' with
    | missing hnone => cases hsame hfile hnone
    | malformed hfile' hvalue' =>
      cases hsame hfile hfile'
      exact absurd hvalue (hvalue' _)
    | read hfile' hvalue' =>
      -- both are the outcome for the one mapping in the one file
      cases hsame hfile hfile'
      cases hvalue.unique hvalue'
      rfl

/-- The findings tell of some outcomes: what they say of outcomes is said of these, in turn, and
nothing else is counted. -/
structure Reported (f : Findings) (os : List GuardrailOutcome) : Prop where
  /-- The codes of outcomes are those of the outcomes. -/
  codes : (f.issues.map fun i => (i.code, i.severity)).filter (fun x => isCode x.1) =
    os.flatMap told
  /-- What is counted is the outcomes. -/
  counts : f.counts = os.flatMap counts

/-- Findings that tell of an outcome, behind others that tell of none. -/
theorem reported_append {front rest : Findings} (hfailure : front.failure = none)
    (hcounts : front.counts = []) (hcodes : front.Only fun i => isCode i.code = false)
    (h : Reported rest [o]) : Reported (front ++ rest) [o] := by
  constructor
  · have hnone : (front.issues.map fun i => (i.code, i.severity)).filter
        (fun x => isCode x.1) = [] := by
      rw [List.filter_eq_nil_iff, List.forall_mem_map]
      exact fun i hi => Bool.eq_false_iff.mp (hcodes i hi)
    rw [issues_append hfailure, List.map_append, List.filter_append, hnone, h.codes,
      List.nil_append]
  · rw [counts_append hfailure, hcounts, h.counts, List.nil_append]

/-- Where some values have an outcome each that is told of, and nothing is found about the others,
the findings about all of them tell of the outcomes in turn. -/
theorem exists_reported_all {α : Type} {xs : List α} {q : α → Bool} {f : α → Findings}
    {R : α → GuardrailOutcome → Prop} (hfailure : (all xs f).failure = none)
    (h : ∀ x ∈ xs, (q x = true ∧ ∃ o, R x o ∧ Reported (f x) [o]) ∨
      (q x = false ∧ f x = nothing)) :
    ∃ os, List.Forall₂ R (xs.filter q) os ∧ Reported (all xs f) os := by
  -- along the values; without a failure what is found about one does not hide the others
  induction xs with
  | nil => exact ⟨[], .nil, rfl, rfl⟩
  | cons x xs ih =>
    obtain ⟨hx, hxs⟩ := List.forall_mem_cons.mp h
    obtain ⟨hxfailure, hxsfailure⟩ := failure_append_eq_none.mp hfailure
    obtain ⟨os, hos, hrest⟩ := ih hxsfailure hxs
    rcases hx with ⟨hkeep, o, ho, hreported⟩ | ⟨hkeep, hnothing⟩
    · refine ⟨o :: os, ?_, ?_, ?_⟩
      · rw [List.filter_cons_of_pos hkeep]
        exact .cons ho hos
      · show ((f x ++ all xs f).issues.map _).filter _ = _
        rw [issues_append hxfailure, List.map_append, List.filter_append, hreported.codes,
          hrest.codes]
        simp
      · show (f x ++ all xs f).counts = _
        rw [counts_append hxfailure, hreported.counts, hrest.counts]
        simp
    · refine ⟨os, ?_, ?_⟩
      · rw [List.filter_cons_of_neg (by simp [hkeep])]
        exact hos
      · show Reported (f x ++ all xs f) os
        rwa [hnothing, nothing_append]

section Balance

variable {f : Findings} {os : List GuardrailOutcome}

/-- How often an issue with the code of an outcome is reported is told by the outcomes. -/
theorem Reported.countP_code (h : Reported f os) {code : String} (hcode : isCode code = true) :
    f.issues.countP (fun i => i.code == code) =
      (os.flatMap told).countP fun x => x.1 == code := by
  rw [← h.codes, List.countP_filter, List.countP_map]
  refine List.countP_congr fun i _ => ?_
  -- an issue with that code is one of those that tell of outcomes
  simp only [Function.comp_apply, Bool.and_eq_true, beq_iff_eq]
  exact ⟨fun h => ⟨h, h ▸ hcode⟩, And.left⟩

/-- Each outcome is told of as missing or as malformed, or is counted, and only one of the three. -/
theorem length_eq_told_add_counted (os : List GuardrailOutcome) :
    (os.length : ℤ) =
      (os.flatMap told).countP (fun x => x.1 == "CES_GUARDRAIL_REFERENCE_MISSING") +
      (os.flatMap told).countP (fun x => x.1 == "CES_GUARDRAIL_JSON_INVALID") +
      Counters.total "guardrails_resolved" (os.flatMap counts) := by
  unfold Counters.total
  induction os with
  | nil => rfl
  | cons o os ih =>
    rw [List.flatMap_cons, List.flatMap_cons, List.length_cons, List.countP_append,
      List.countP_append, List.filter_append, List.map_append, List.sum_append]
    cases o <;> simp [told, counts] at ih ⊢ <;> omega

end Balance

end GuardrailOutcome

namespace Rule

open GuardrailOutcome

variable {t : FileTree} {p : Package} {path file : Path} {reference : String}

/-- The findings about a guardrail whose manifest gives a name, or none. -/
def nameFindings (t : FileTree) (reference : String) (file : Path) (name? : Option String) :
    Findings :=
  counted "guardrails_resolved" ++
    match name? with
    | none => nothing
    | some name =>
      when (Text.trim name != Text.trim reference) <|
        warningAt t "CES_GUARDRAIL_DISPLAYNAME_MISMATCH"
          ("guardrail displayName '" ++ Text.trim name ++ "' differs from manifest " ++
            "reference '" ++ Text.trim reference ++ "'") file "displayName"

/-- What is reported of the name that a mapping gives is the outcome for the mapping. -/
theorem nameFindings_reported (hname : FileTree.isNameable file = true) (fields : Fields) :
    Reported (nameFindings t reference file (Manifest.textIn Manifest.displayName fields))
      [ofFields reference fields] := by
  unfold nameFindings ofFields
  cases Manifest.textIn Manifest.displayName fields with
  | none => exact ⟨rfl, rfl⟩
  | some name =>
    by_cases hsame : Text.trim name = Text.trim reference
    · simp only [hsame, bne_self_eq_false]
      exact ⟨rfl, rfl⟩
    · -- the line of the warning is found, since the file has a name
      obtain ⟨line, hline⟩ := exists_lineContaining hname t "displayName"
      have hdiffers : (Text.trim name != Text.trim reference) = true := by simpa using hsame
      simp only [hdiffers, when, if_true, if_neg hsame, warningAt, hline]
      exact ⟨rfl, rfl⟩

/-- What is reported of a manifest that is a mapping is the outcome for it. -/
theorem guardrailManifest_record {fields : Fields} {text : List Char}
    (hname : FileTree.isNameable file = true) (hkeys : fields.HasStringKeys)
    (h : (guardrailManifest t reference file (.record fields text)).failure = none) :
    Reported (guardrailManifest t reference file (.record fields text))
      [ofFields reference fields] := by
  obtain ⟨⟨guardrail, issues⟩, hload, -⟩ := failure_check_eq_none.mp h
  obtain ⟨-, clean, hclean, rfl⟩ := Manifest.load_eq_ok.mp hload
  -- the name that is left by cleaning is the one that the mapping gives
  have hdisplayName : Manifest.textOf Manifest.displayName clean =
      Manifest.textIn Manifest.displayName fields :=
    Manifest.textOf_clean (by decide +kernel) hkeys hclean List.mem_cons_self rfl
  have hfindings : guardrailManifest t reference file (.record fields text) =
      fieldErrors t "CES_GUARDRAIL_FIELD_INVALID" ("Guardrail '" ++ reference ++ "'") file issues ++
        nameFindings t reference file (Manifest.textIn Manifest.displayName fields) := by
    unfold nameFindings
    rw [← hdisplayName, ← append_assoc]
    simp only [guardrailManifest, Document.fields?, hload, check]
    rfl
  rw [hfindings]
  exact reported_append (failure_fieldErrors hname) (counts_fieldErrors hname)
    (only_fieldErrors fun _ _ => rfl) (nameFindings_reported hname fields)

/-- What is reported of a reference that is not blank is its outcome. -/
theorem guardrailReference_settles (hblank : Text.isAllBlank reference = false)
    (h : (guardrailReference t p path reference).failure = none) :
    ∃ o, Decided t p reference o ∧ Reported (guardrailReference t p path reference) [o] := by
  rw [guardrailReference, hblank, Bool.not_false, when, if_pos rfl] at h ⊢
  obtain ⟨found, hfound, h⟩ := failure_check_eq_none.mp h
  have hresolves := Guardrail.resolves_iff.mpr hfound
  rw [hfound, check]
  cases found with
  | none =>
    obtain ⟨line, hline, -⟩ := failure_check_eq_none.mp h
    refine ⟨missing, .missing hresolves, ?_⟩
    simp only [errorAt, hline]
    exact ⟨rfl, rfl⟩
  | some file =>
    obtain ⟨d, hread, h⟩ := failure_check_eq_none.mp h
    have hanswers := Document.answers_of_read hread
    simp only [hread, check]
    cases d with
    | record fields text =>
      have hvalue := (hanswers.fields fields).mp rfl
      exact ⟨_, .read hresolves hvalue, guardrailManifest_record
        (Document.isNameable_of_read hread) hvalue.isJson.hasStringKeys h⟩
    | _ =>
      -- without entries the file is no mapping
      refine ⟨malformed, .malformed hresolves fun fields hvalue => ?_, rfl, rfl⟩
      cases (hanswers.fields fields).mpr hvalue

/-- The findings account for some references to guardrails. -/
structure AccountsForGuardrails (t : FileTree) (p : Package) (references : List String)
    (f : Findings) : Prop where
  /-- Each reference has its outcome, and these are what is told of, in turn. -/
  outcomes : ∃ os, List.Forall₂ (Decided t p) references os ∧ Reported f os
  /-- The references are those that are reported as missing, those whose manifests are reported as
  invalid, and those that are counted. -/
  balance : (references.length : ℤ) =
    f.issues.countP (fun i => i.code == "CES_GUARDRAIL_REFERENCE_MISSING") +
    f.issues.countP (fun i => i.code == "CES_GUARDRAIL_JSON_INVALID") +
    Counters.total "guardrails_resolved" f.counts

/-- The rule about guardrails accounts for the references in the manifest of the package that are
not blank, unless it fails. The manifest of a guardrail is the first of its four places at which the
package has a file; looking for it fails only where it cannot be told whether there is one. The
package was indexed in a tree `t₀`, which may have changed since into `t`. -/
theorem guardrails_accounted {t₀ : FileTree} (hindexed : p.Indexed t₀) {m : AppManifest}
    (hm : p.manifest = some m) {settings : AuditSettings}
    (h : (guardrailReferences.findings t p settings).failure = none) :
    AccountsForGuardrails t p
        ((m.guardrails.getD []).filter fun reference => !Text.isAllBlank reference)
        (guardrailReferences.findings t p settings) ∧
      ∀ reference, ∃ other, Guardrail.IsOther reference other ∧
        (∀ found, Guardrail.resolve t p reference = .ok found ↔
          p.FirstFile t (Guardrail.places p.root reference other) found) ∧
        ∀ failure, Guardrail.resolve t p reference = .error failure ↔
          ∃ before c after, Guardrail.places p.root reference other = before ++ c :: after ∧
            (∀ c ∈ before, p.hasFile t c = .ok false) ∧ p.hasFile t c = .error failure := by
  constructor
  · obtain ⟨path, hpath⟩ := hindexed.exists_manifestPath hm
    have hfindings : guardrailReferences.findings t p settings =
        all (m.guardrails.getD []) (guardrailReference t p path) := by
      simp only [guardrailReferences, hm, hpath]
    rw [hfindings] at h ⊢
    obtain ⟨os, hos, hreported⟩ := exists_reported_all
      (q := fun reference => !Text.isAllBlank reference) (R := Decided t p) h
      fun reference hreference => by
        cases hblank : Text.isAllBlank reference with
        | true => exact .inr ⟨rfl, by rw [guardrailReference, hblank]; rfl⟩
        | false =>
          exact .inl ⟨rfl,
            guardrailReference_settles hblank (failure_all_eq_none.mp h reference hreference)⟩
    refine ⟨⟨os, hos, hreported⟩, ?_⟩
    rw [hos.length_eq, length_eq_told_add_counted, hreported.countP_code (by decide +kernel),
      hreported.countP_code (by decide +kernel), hreported.counts]
  · intro reference
    obtain ⟨other, hother⟩ := Guardrail.exists_isOther reference
    exact ⟨other, hother, fun found => Guardrail.resolve_eq_ok_iff hother,
      fun failure => Guardrail.resolve_eq_error_iff hother⟩

section Railings

/-- A package that names a guardrail whose manifest lies in a folder with underscores, twice, one
whose manifest is a file with another name, one without a manifest and one with a broken one. -/
def railings : FileTree :=
  ⟨[(["app.json"],
      .file ("\x7b\"guardrails\":[\"be kind\",\"no  haste\",\"gone\",\" \",\"torn\"," ++
        "\"be kind\"]\x7d").toUTF8),
    (["guardrails"], .directory),
    (["guardrails", "be_kind"], .directory),
    (["guardrails", "be_kind", "be_kind.json"],
      .file "\x7b\"displayName\":7,\"display_name\":\" be kind\"\x7d".toUTF8),
    (["guardrails", "no_haste.json"], .file "\x7b\"displayName\":\"no haste\"\x7d".toUTF8),
    (["guardrails", "torn.json"], .file "[".toUTF8)]⟩

set_option maxRecDepth 10000 in
/-- In the package three of the five references are counted, one of them under another name. -/
theorem guardrails_accounted_railings :
    ∃ p m, Package.index railings ⟨.root, []⟩ = .ok p ∧ p.Indexed railings ∧
      p.manifest = some m ∧
      (guardrailReferences.findings railings p {}).failure = none ∧
      (guardrailReferences.findings railings p {}).issues.map Issue.code =
        ["CES_GUARDRAIL_FIELD_INVALID", "CES_GUARDRAIL_DISPLAYNAME_MISMATCH",
          "CES_GUARDRAIL_REFERENCE_MISSING", "CES_GUARDRAIL_JSON_INVALID",
          "CES_GUARDRAIL_FIELD_INVALID"] ∧
      Counters.total "guardrails_resolved" (guardrailReferences.findings railings p {}).counts = 3 ∧
      AccountsForGuardrails railings p
        ((m.guardrails.getD []).filter fun reference => !Text.isAllBlank reference)
        (guardrailReferences.findings railings p {}) ∧
      ∀ reference, ∃ other, Guardrail.IsOther reference other ∧
        (∀ found, Guardrail.resolve railings p reference = .ok found ↔
          p.FirstFile railings (Guardrail.places p.root reference other) found) ∧
        ∀ failure, Guardrail.resolve railings p reference = .error failure ↔
          ∃ before c after, Guardrail.places p.root reference other = before ++ c :: after ∧
            (∀ c ∈ before, p.hasFile railings c = .ok false) ∧
              p.hasFile railings c = .error failure := by
  have hrun : ∃ p, Package.index railings ⟨.root, []⟩ = .ok p ∧ p.manifest.isSome = true ∧
      (guardrailReferences.findings railings p {}).failure = none ∧
      (guardrailReferences.findings railings p {}).issues.map Issue.code =
        ["CES_GUARDRAIL_FIELD_INVALID", "CES_GUARDRAIL_DISPLAYNAME_MISMATCH",
          "CES_GUARDRAIL_REFERENCE_MISSING", "CES_GUARDRAIL_JSON_INVALID",
          "CES_GUARDRAIL_FIELD_INVALID"] ∧
      Counters.total "guardrails_resolved"
        (guardrailReferences.findings railings p {}).counts = 3 := by
    decide +kernel
  obtain ⟨p, hindex, hmanifest, hfailure, hissues, htotal⟩ := hrun
  obtain ⟨m, hm⟩ := Option.isSome_iff_exists.mp hmanifest
  have hindexed := (Package.index_eq_ok_iff.mp hindex).2
  exact ⟨p, m, hindex, hindexed, hm, hfailure, hissues, htotal,
    guardrails_accounted hindexed hm hfailure⟩

end Railings

end Rule

end AgentPackage
