import AgentPackage.Proofs.Audit.LocalAddress
import AgentPackage.Proofs.Document
import AgentPackage.Proofs.Findings
import AgentPackage.Proofs.Package.Index

/-!
# What the environment file may hold

The environment file of a package is a mapping in which toolsets have entries of a given shape. This
module states the shape without the checks and shows that the rule about the file accepts exactly
the files that have it, and reports what is at fault otherwise: the file as a whole once, or else
each entry that is malformed, in order. Whether the file names the local machine is looked for
besides, in all texts of the value and whatever its shape. In a file that is nested too deep this
search can end without an answer, and the rule with it; the errors stand all the same.

## Main definitions

* `EnvironmentFile.EntryFits`, `EnvironmentFile.Fits`: the shape of an entry and of the whole file;
* `EnvironmentFile.NamesLocal`, `EnvironmentFile.IsTooDeep`: the file names the local machine, or is
  nested too deep to be looked through;
* `Rule.AccountsForEnvironment`: findings account for the environment file.

## Main results

* `Rule.environmentEntry_settles`: what is reported of an entry;
* `Rule.environmentFile_accounts`: what the rule about the environment file reports.
-/

namespace AgentPackage

namespace EnvironmentFile

/-- The part of an entry about the schema is a mapping, and what it has under `url`, if anything, is
a text. -/
def PartFits (v : Value) : Prop :=
  ∃ fields, v = .map fields ∧ ∀ url ∈ Fields.get? fields "url", ∃ text, url = .str text

/-- The entry of a toolset is a mapping, and what it has under `openApiToolset`, if anything, fits
as well. -/
def EntryFits (v : Value) : Prop :=
  ∃ fields, v = .map fields ∧ ∀ part ∈ Fields.get? fields "openApiToolset", PartFits part

/-- The value is a mapping, in which the entries of toolsets are those. -/
def HasEntries (v : Value) (entries : Fields) : Prop :=
  ∃ fields, v = .map fields ∧ Fields.get? fields "toolsets" = some (.map entries)

/-- The value of an environment file is a mapping with one of toolsets, all of whose entries fit. -/
def Fits (v : Value) : Prop :=
  ∃ entries, HasEntries v entries ∧ ∀ e ∈ entries, EntryFits e.2

/-- What is wrong with the entry of a toolset. -/
inductive EntryFault where
  /-- The entry is no mapping. -/
  | entry
  /-- The part about the schema is no mapping. -/
  | part
  /-- The address is no text. -/
  | url
  deriving DecidableEq, Repr

/-- What is wrong with the entry of a toolset. -/
inductive IsFaulty : Value → EntryFault → Prop where
  /-- The entry is no mapping. -/
  | entry {v : Value} (hentry : ∀ fields, v ≠ .map fields) : IsFaulty v .entry
  /-- The part about the schema is no mapping. -/
  | part {fields : Fields} {part : Value} (hpart : Fields.get? fields "openApiToolset" = some part)
      (h : ∀ inner, part ≠ .map inner) : IsFaulty (.map fields) .part
  /-- The address is no text. -/
  | url {fields inner : Fields} {url : Value}
      (hpart : Fields.get? fields "openApiToolset" = some (.map inner))
      (hurl : Fields.get? inner "url" = some url) (h : ∀ text, url ≠ .str text) :
      IsFaulty (.map fields) .url

section Decidable

-- whether an entry fits can be computed, which the list of those that do not fit needs
variable {v : Value}

/-- Whether a value is a mapping with a property is decided by its entries. -/
instance decidableExistsMap {P : Fields → Prop} [DecidablePred P] :
    Decidable (∃ fields, v = .map fields ∧ P fields) :=
  match v with
  | .map fields =>
    decidable_of_iff (P fields) ⟨fun h => ⟨fields, rfl, h⟩, fun ⟨_, h, hP⟩ => by cases h; exact hP⟩
  | .null | .bool _ | .int _ | .float _ | .str _ | .date _ | .dateTime _ | .bytes _ | .list _
  | .tuple _ | .set _ => isFalse nofun

instance decidableExistsStr : Decidable (∃ text, v = .str text) :=
  decidable_of_iff (v.isStr = true) (by cases v <;> simp [Value.isStr, Value.str?])

instance : Decidable (PartFits v) := decidableExistsMap

instance : Decidable (EntryFits v) := decidableExistsMap

end Decidable

/-- An entry with which something is wrong does not fit. -/
theorem IsFaulty.not_fits {v : Value} {fault : EntryFault} (h : IsFaulty v fault) :
    ¬ EntryFits v := by
  rintro ⟨fields, rfl, hfits⟩
  cases h with
  | entry hentry => exact hentry fields rfl
  | part hpart hmap =>
    obtain ⟨inner, rfl, -⟩ := hfits _ hpart
    exact hmap inner rfl
  | url hpart hurl htext =>
    obtain ⟨inner, hinner, hfits⟩ := hfits _ hpart
    cases hinner
    obtain ⟨text, rfl⟩ := hfits _ hurl
    exact htext text rfl

namespace EntryFault

/-- The code of the issue about an entry. -/
def code : EntryFault → String
  | entry => "CES_ENVIRONMENT_TOOLSET_ENTRY_INVALID"
  | part => "CES_ENVIRONMENT_OPENAPI_TOOLSET_INVALID"
  | url => "CES_ENVIRONMENT_OPENAPI_URL_INVALID"

/-- What the issue about an entry says, behind the way to the entry. -/
def message (way : String) : EntryFault → String
  | entry => way ++ " must be an object"
  | part => way ++ ".openApiToolset must be an object"
  | url => way ++ ".openApiToolset.url must be a string"

/-- What is looked for to find the line of the issue about the entry of a toolset. -/
def token (name : String) : EntryFault → String
  | entry => name
  | part => "openApiToolset"
  | url => "url"

/-- The issue is the one about the entry of a toolset in the file. -/
def Tells (t : FileTree) (path : Path) (name : String) (fault : EntryFault) (i : Issue) : Prop :=
  ∃ line, Document.lineContaining t path (fault.token name) = .ok line ∧
    i = ⟨fault.code, fault.message ("environment.json toolsets." ++ name), .error, path.text,
      line.map Int.ofNat⟩

end EntryFault

/-- The issue is about the entry, under the name of the toolset that is its key. -/
def TellsEntry (t : FileTree) (path : Path) (e : Value × Value) (i : Issue) : Prop :=
  ∃ name fault, e.1 = .str name ∧ IsFaulty e.2 fault ∧ fault.Tells t path name i

/-- What is wrong with an environment file as a whole. -/
inductive FileFault where
  /-- The file has no value. -/
  | malformed
  /-- The root is no mapping. -/
  | wrongRoot
  /-- There is no mapping of toolsets. -/
  | toolsets
  deriving DecidableEq, Repr

/-- The code of the issue about an environment file as a whole. -/
def FileFault.code : FileFault → String
  | malformed => "CES_ENVIRONMENT_PARSE_ERROR"
  | wrongRoot => "CES_ENVIRONMENT_INVALID_ROOT"
  | toolsets => "CES_ENVIRONMENT_TOOLSETS_INVALID"

/-- What is wrong with an environment file as a whole. -/
inductive IsAtFault (t : FileTree) (path : Path) : FileFault → Prop where
  /-- The file has no value. -/
  | malformed (h : ∀ v, ¬ Document.Denotes t (some .json) path v) : IsAtFault t path .malformed
  /-- The root is no mapping. -/
  | wrongRoot {v : Value} (hvalue : Document.Denotes t (some .json) path v)
      (h : ∀ fields, v ≠ .map fields) : IsAtFault t path .wrongRoot
  /-- There is no mapping of toolsets. -/
  | toolsets {fields : Fields} (hvalue : Document.Denotes t (some .json) path (.map fields))
      (h : ∀ entries, Fields.get? fields "toolsets" ≠ some (.map entries)) :
      IsAtFault t path .toolsets

variable {t : FileTree} {path : Path} {v : Value} {entries entries' : Fields}

/-- The value of the file is a mapping that names the local machine. -/
def NamesLocal (t : FileTree) (path : Path) : Prop :=
  ∃ fields, Document.Denotes t (some .json) path (.map fields) ∧
    LocalAddress.NamedIn (.map fields)

/-- The value of the file is a mapping that is nested too deep to be looked through. -/
def IsTooDeep (t : FileTree) (path : Path) : Prop :=
  ∃ fields, Document.Denotes t (some .json) path (.map fields) ∧
    callRoom < LocalAddress.searchCalls (.map fields)

theorem HasEntries.unique (h : HasEntries v entries) (h' : HasEntries v entries') :
    entries = entries' := by
  obtain ⟨fields, rfl, hentries⟩ := h
  obtain ⟨_, hfields, hentries'⟩ := h'
  cases hfields
  cases hentries.symm.trans hentries'
  rfl

/-- A file that is wrong as a whole has no entries of toolsets. -/
theorem IsAtFault.not_hasEntries {fault : FileFault} (h : IsAtFault t path fault)
    (hvalue : Document.Denotes t (some .json) path v) : ¬ HasEntries v entries := by
  rintro ⟨fields, rfl, hentries⟩
  cases h with
  | malformed h => exact h _ hvalue
  | wrongRoot hvalue' h => exact h fields (hvalue'.unique hvalue)
  | toolsets hvalue' h =>
    cases hvalue'.unique hvalue
    exact h entries hentries

/-- With entries of toolsets a file has the shape of one exactly if none of them does not fit. -/
theorem filter_eq_nil_iff_fits (hvalue : Document.Denotes t (some .json) path v)
    (hentries : HasEntries v entries) :
    (entries.filter fun e => ¬ EntryFits e.2) = [] ↔
      ∃ v, Document.Denotes t (some .json) path v ∧ Fits v := by
  rw [List.filter_eq_nil_iff]
  simp only [decide_not, Bool.not_eq_true', decide_eq_false_iff_not, not_not]
  constructor
  · exact fun hfits => ⟨v, hvalue, entries, hentries, hfits⟩
  · rintro ⟨v', hvalue', entries', hentries', hfits⟩
    -- the file has one value, and the value one row of entries
    rw [hvalue.unique hvalue'] at hentries
    rwa [hentries.unique hentries']

end EnvironmentFile

namespace Findings

/-- The errors among findings. -/
def errors (f : Findings) : List Issue :=
  f.issues.filter fun i => i.severity == .error

/-- The warnings among findings. -/
def warnings (f : Findings) : List Issue :=
  f.issues.filter fun i => i.severity == .warning

end Findings

namespace Rule

open EnvironmentFile Findings

variable {t : FileTree} {path : Path}

section Entries

variable (hname : FileTree.isNameable path = true)

include hname

/-- A fault of an entry is reported as one issue. -/
theorem exists_tells (t : FileTree) (name : String) (fault : EntryFault) :
    ∃ i, fault.Tells t path name i ∧
      errorAt t fault.code (fault.message ("environment.json toolsets." ++ name)) path
        (fault.token name) = one i := by
  obtain ⟨line, hline, herror⟩ := exists_errorAt_eq hname t fault.code
    (fault.message ("environment.json toolsets." ++ name)) (fault.token name)
  exact ⟨_, ⟨line, hline, rfl⟩, herror⟩

/-- An entry that does not fit is reported as one issue that says what is wrong with it, and of one
that fits nothing is reported. -/
theorem environmentEntry_settles (t : FileTree) (name : String) (v : Value) :
    (¬ EntryFits v ∧ ∃ i, (∃ fault, IsFaulty v fault ∧ fault.Tells t path name i) ∧
        environmentEntry t path name v = one i) ∨
      (EntryFits v ∧ environmentEntry t path name v = nothing) := by
  have hfaulty : ∀ fault, IsFaulty v fault →
      environmentEntry t path name v = errorAt t fault.code
        (fault.message ("environment.json toolsets." ++ name)) path (fault.token name) →
      ¬ EntryFits v ∧ ∃ i, (∃ fault, IsFaulty v fault ∧ fault.Tells t path name i) ∧
        environmentEntry t path name v = one i := by
    intro fault hfault heq
    obtain ⟨i, htells, hone⟩ := exists_tells hname t name fault
    exact ⟨hfault.not_fits, i, ⟨fault, hfault, htells⟩, heq.trans hone⟩
  -- the way to the address is followed as far as it goes
  cases v with
  | map fields =>
    cases hpart : Fields.get? fields "openApiToolset" with
    | none =>
      refine .inr ⟨⟨fields, rfl, by simp [hpart]⟩, ?_⟩
      simp only [environmentEntry, hpart]
    | some part =>
      cases part with
      | map inner =>
        cases hurl : Fields.get? inner "url" with
        | none =>
          refine .inr ⟨⟨fields, rfl, by simp [hpart, PartFits, hurl]⟩, ?_⟩
          simp only [environmentEntry, hpart, hurl]
        | some url =>
          cases url with
          | str text =>
            refine .inr ⟨⟨fields, rfl, by simp [hpart, PartFits, hurl]⟩, ?_⟩
            simp only [environmentEntry, hpart, hurl]
          | _ =>
            refine .inl (hfaulty .url (.url hpart hurl nofun) ?_)
            simp only [environmentEntry, hpart, hurl]
            rfl
      | _ =>
        refine .inl (hfaulty .part (.part hpart nofun) ?_)
        simp only [environmentEntry, hpart]
        rfl
  | _ => exact .inl (hfaulty .entry (.entry nofun) rfl)

end Entries

/-- The code of the warning that the local machine is named. -/
def localhostCode : String := "CES_ENVIRONMENT_LOCALHOST_WARNING"

/-- The findings account for an environment file, whose value is the one that it has in `t₀`. -/
structure AccountsForEnvironment (t₀ t : FileTree) (path : Path) (settings : AuditSettings)
    (f : Findings) : Prop where
  /-- The rule goes on to its end, or it ends without a warning as it is asked to look through a file
  that is nested too deep. -/
  failure : f.failure = none ∨
    settings.warnOnLocalhost = true ∧ IsTooDeep t₀ path ∧
      f.failure = some (.tooDeep .function) ∧ f.warnings = []
  /-- It does not go on to its end in such a file if there is nothing to be found in it. -/
  fails : settings.warnOnLocalhost = true → IsTooDeep t₀ path → ¬ NamesLocal t₀ path →
    f.failure = some (.tooDeep .function)
  /-- The errors come first, then the warnings, and there is nothing else. -/
  issues : f.issues = f.errors ++ f.warnings
  /-- There is no error exactly if the value of the file has the shape of one. -/
  accepts : f.errors = [] ↔ ∃ v, Document.Denotes t₀ (some .json) path v ∧ Fits v
  /-- Unless the file has entries of toolsets there is one error, about the file as a whole. -/
  whole : (¬ ∃ v entries, Document.Denotes t₀ (some .json) path v ∧ HasEntries v entries) →
    ∃ fault i, IsAtFault t₀ path fault ∧ f.errors = [i] ∧ i.code = fault.code
  /-- If it has there is one error for each entry that does not fit, in the order of the file. -/
  entries : ∀ v entries, Document.Denotes t₀ (some .json) path v → HasEntries v entries →
    List.Forall₂ (TellsEntry t path) (entries.filter fun e => ¬ EntryFits e.2) f.errors
  /-- If it is asked for, there is one warning if the local machine is named in a mapping and the
  rule goes on to its end. -/
  warns : f.failure = none → settings.warnOnLocalhost = true → NamesLocal t₀ path →
    ∃ i, f.warnings = [i] ∧ i.code = localhostCode
  /-- Otherwise there is no warning. -/
  silent : ¬ (settings.warnOnLocalhost = true ∧ NamesLocal t₀ path) → f.warnings = []

/-- What the search for the local machine adds to the errors about a file. -/
inductive ClosesEnvironment (t₀ : FileTree) (path : Path) (settings : AuditSettings) :
    Findings → Prop where
  /-- It is not asked for, or it goes through the file and finds nothing. -/
  | silent (hnone : ¬ (settings.warnOnLocalhost = true ∧ NamesLocal t₀ path))
      (hroom : ¬ (settings.warnOnLocalhost = true ∧ IsTooDeep t₀ path)) :
      ClosesEnvironment t₀ path settings nothing
  /-- It finds the local machine. -/
  | warns {i : Issue} (hasked : settings.warnOnLocalhost = true) (hnamed : NamesLocal t₀ path)
      (hcode : i.code = localhostCode) (hseverity : i.severity = .warning) :
      ClosesEnvironment t₀ path settings (one i)
  /-- It ends without an answer. -/
  | fails (hasked : settings.warnOnLocalhost = true) (hdeep : IsTooDeep t₀ path) :
      ClosesEnvironment t₀ path settings (failed (.tooDeep .function))

section Parts

variable {t₀ : FileTree} {settings : AuditSettings} {front back : Findings}

theorem ClosesEnvironment.only (h : ClosesEnvironment t₀ path settings back) :
    back.Only fun i => i.severity = .warning := by
  cases h with
  | silent => exact only_nothing
  | warns _ _ _ hseverity => exact fun j hj => List.mem_singleton.mp hj ▸ hseverity
  | fails => exact only_failed _

/-- Errors with warnings behind them are split into the two. -/
theorem errors_and_warnings (hfailure : front.failure = none)
    (herrors : front.Only fun i => i.severity = .error)
    (hwarnings : back.Only fun i => i.severity = .warning) :
    (front ++ back).errors = front.issues ∧ (front ++ back).warnings = back.issues := by
  have hfront : front.issues.filter (fun i => i.severity == .error) = front.issues :=
    List.filter_eq_self.mpr fun i hi => by rw [herrors i hi]; rfl
  have hfront' : front.issues.filter (fun i => i.severity == .warning) = [] :=
    filter_issues_eq_nil (herrors.mono fun i hi => by rw [hi]; rfl)
  have hback : back.issues.filter (fun i => i.severity == .error) = [] :=
    filter_issues_eq_nil (hwarnings.mono fun i hi => by rw [hi]; rfl)
  have hback' : back.issues.filter (fun i => i.severity == .warning) = back.issues :=
    List.filter_eq_self.mpr fun i hi => by rw [hwarnings i hi]; rfl
  unfold errors warnings
  rw [issues_append hfailure, List.filter_append, List.filter_append, hfront, hfront', hback, hback']
  exact ⟨List.append_nil _, List.nil_append _⟩

/-- Errors about a file as a whole, or else about its entries, account for the file together with
what the search for the local machine adds to them. -/
theorem accounts_of_errors (hfailure : front.failure = none)
    (herrors : front.Only fun i => i.severity = .error)
    (hfront : (∃ fault i, IsAtFault t₀ path fault ∧ front.issues = [i] ∧ i.code = fault.code) ∨
      ∃ v entries, Document.Denotes t₀ (some .json) path v ∧ HasEntries v entries ∧
        List.Forall₂ (TellsEntry t path) (entries.filter fun e => ¬ EntryFits e.2) front.issues)
    (hback : ClosesEnvironment t₀ path settings back) :
    AccountsForEnvironment t₀ t path settings (front ++ back) := by
  obtain ⟨hes, hws⟩ := errors_and_warnings hfailure herrors hback.only
  have hends : (front ++ back).failure = back.failure := by
    rw [Findings.failure_append, hfailure]
    rfl
  exact
    { failure := by
        rw [hends, hws]
        cases hback with
        | silent | warns => exact .inl rfl
        | fails hasked hdeep => exact .inr ⟨hasked, hdeep, rfl, rfl⟩
      fails := fun hasked hdeep hnone => by
        rw [hends]
        cases hback with
        | silent _ hroom => exact absurd ⟨hasked, hdeep⟩ hroom
        | warns _ hnamed => exact absurd hnamed hnone
        | fails => rfl
      issues := by rw [hes, hws, issues_append hfailure]
      accepts := by
        rw [hes]
        rcases hfront with ⟨fault, i, hfault, hissue, -⟩ | ⟨v, entries, hv, hentries, htells⟩
        · rw [hissue]
          refine iff_of_false (List.cons_ne_nil _ _) ?_
          rintro ⟨v, hv, entries, hentries, -⟩
          exact hfault.not_hasEntries hv hentries
        · -- there are as many errors as there are entries that do not fit
          rw [← filter_eq_nil_iff_fits hv hentries, ← List.length_eq_zero_iff, ← htells.length_eq,
            List.length_eq_zero_iff]
      whole := fun hnone => by
        rw [hes]
        rcases hfront with hwhole | ⟨v, entries, hv, hentries, -⟩
        · exact hwhole
        · exact absurd ⟨v, entries, hv, hentries⟩ hnone
      entries := fun v entries hv hentries => by
        rw [hes]
        rcases hfront with ⟨fault, i, hfault, -⟩ | ⟨v', entries', hv', hentries', htells⟩
        · exact absurd hentries (hfault.not_hasEntries hv)
        · -- these are the entries that the errors are about
          rw [hv'.unique hv] at hentries'
          rwa [hentries'.unique hentries] at htells
      warns := fun hnone hasked hnamed => by
        rw [hends] at hnone
        rw [hws]
        cases hback with
        | silent hsilent => exact absurd ⟨hasked, hnamed⟩ hsilent
        | warns _ _ hcode => exact ⟨_, rfl, hcode⟩
        | fails => cases hnone
      silent := fun hsilent => by
        rw [hws]
        cases hback with
        | silent | fails => rfl
        | warns hasked hnamed => exact absurd ⟨hasked, hnamed⟩ hsilent }

/-- One error accounts for a file whose value is no mapping. -/
theorem accounts_of_whole {fault : FileFault} {i : Issue} (hfault : IsAtFault t₀ path fault)
    (hnone : ∀ fields, ¬ Document.Denotes t₀ (some .json) path (.map fields))
    (hseverity : i.severity = .error) (hcode : i.code = fault.code) :
    AccountsForEnvironment t₀ t path settings (one i) := by
  -- there is nothing to look through behind the error
  rw [← append_nothing (one i)]
  refine accounts_of_errors rfl (fun j hj => ?_) (.inl ⟨fault, i, hfault, rfl, hcode⟩)
    (.silent (fun ⟨_, fields, hv, _⟩ => hnone fields hv) fun ⟨_, fields, hv, _⟩ => hnone fields hv)
  rw [List.mem_singleton.mp hj]
  exact hseverity

end Parts

section File

variable {t₀ : FileTree} {settings : AuditSettings} {fields entries : Fields}
  (hname : FileTree.isNameable path = true)

include hname

/-- Without a mapping of toolsets there is one error. -/
theorem environmentToolsets_of_none
    (h : ∀ entries, Fields.get? fields "toolsets" ≠ some (.map entries)) (t : FileTree) :
    ∃ i, i.severity = .error ∧ i.code = FileFault.toolsets.code ∧
      environmentToolsets t path fields = one i := by
  obtain ⟨line, -, herror⟩ := exists_errorAt_eq hname t FileFault.toolsets.code
    "environment.json must contain a 'toolsets' object" "toolsets"
  unfold environmentToolsets
  split
  · exact absurd ‹_› (h _)
  · exact ⟨_, rfl, rfl, herror⟩

/-- With a mapping of toolsets there is one error for each entry that does not fit. -/
theorem environmentToolsets_of_entries (h : Fields.get? fields "toolsets" = some (.map entries))
    (hkeys : entries.HasStringKeys) (t : FileTree) :
    (environmentToolsets t path fields).failure = none ∧
      List.Forall₂ (TellsEntry t path) (entries.filter fun e => ¬ EntryFits e.2)
        (environmentToolsets t path fields).issues := by
  unfold environmentToolsets
  rw [h]
  refine forall₂_issues_all ?_
  rintro ⟨key, v⟩ he
  have hkey := hkeys _ he
  -- the name of a toolset is the text that is its key
  cases key with
  | str name =>
    rcases environmentEntry_settles hname t name v with
      ⟨hnot, i, ⟨fault, hfault, htells⟩, hone⟩ | ⟨hfits, hnothing⟩
    · exact .inl ⟨hnot, i, ⟨name, fault, rfl, hfault, htells⟩, hone⟩
    · exact .inr ⟨not_not.mpr hfits, hnothing⟩
  | _ => cases hkey

omit hname in
/-- Looking through a file whose value is a mapping adds a warning, nothing or a failure. -/
theorem environmentAddresses_closes
    (hvalue : Document.Denotes t₀ (some .json) path (.map fields)) :
    ClosesEnvironment t₀ path settings (environmentAddresses path settings fields) := by
  have hnamed : LocalAddress.occursInValue (.map fields) = true ↔ NamesLocal t₀ path := by
    rw [LocalAddress.occursInValue_iff]
    refine ⟨fun h => ⟨fields, hvalue, h⟩, ?_⟩
    rintro ⟨fields', hvalue', h⟩
    rwa [hvalue.unique hvalue']
  have hdeep : IsTooDeep t₀ path → callRoom < LocalAddress.searchCalls (.map fields) := by
    rintro ⟨fields', hvalue', h⟩
    rwa [hvalue.unique hvalue']
  unfold environmentAddresses
  cases hasked : settings.warnOnLocalhost with
  | false => exact .silent (by simp [hasked]) (by simp [hasked])
  | true =>
    rcases LocalAddress.search_settles callRoom (.map fields) with ⟨hsearch, hroom⟩ | ⟨hsearch, hlt⟩
    · cases hfound : LocalAddress.occursInValue (.map fields) with
      | true =>
        rw [hsearch, hfound]
        exact .warns hasked (hnamed.mp hfound) rfl rfl
      | false =>
        rw [hfound] at hsearch hroom
        rw [hsearch]
        have hle := hroom.resolve_left Bool.false_ne_true
        exact .silent (fun h => Bool.false_ne_true (hfound.symm.trans (hnamed.mpr h.2)))
          fun h => absurd (hdeep h.2) (Nat.not_lt.mpr hle)
    · rw [hsearch]
      exact .fails hasked ⟨fields, hvalue, hlt⟩

/-- What is reported of a file whose value is a mapping accounts for it. -/
theorem environmentRecord_accounts
    (hvalue : Document.Denotes t₀ (some .json) path (.map fields)) (t : FileTree) :
    AccountsForEnvironment t₀ t path settings
      (environmentToolsets t path fields ++ environmentAddresses path settings fields) := by
  have hback : ClosesEnvironment t₀ path settings (environmentAddresses path settings fields) :=
    environmentAddresses_closes hvalue
  by_cases hentries : ∃ entries, Fields.get? fields "toolsets" = some (.map entries)
  · obtain ⟨entries, hentries⟩ := hentries
    obtain ⟨hfailure, htells⟩ := environmentToolsets_of_entries hname hentries
      (hvalue.isJson.of_get? hentries).hasStringKeys t
    refine accounts_of_errors hfailure (fun i hi => ?_)
      (.inr ⟨_, entries, hvalue, ⟨fields, rfl, hentries⟩, htells⟩) hback
    -- every issue about an entry is an error
    obtain ⟨_, -, _, _, -, -, _, -, rfl⟩ := htells.exists_of_mem_right hi
    rfl
  · have hentries := not_exists.mp hentries
    obtain ⟨i, hseverity, hcode, hone⟩ := environmentToolsets_of_none hname hentries t
    rw [hone]
    refine accounts_of_errors rfl (fun j hj => ?_)
      (.inl ⟨.toolsets, i, .toolsets hvalue hentries, rfl, hcode⟩) hback
    rw [List.mem_singleton.mp hj]
    exact hseverity

end File

section Stage

/-- A package whose environment file has an entry that is no mapping, one that fits and names the
local machine, and one whose address is no text. -/
def stage : FileTree :=
  ⟨[(["environment.json"],
      .file ("\x7b\"toolsets\":\x7b\"cart\":1,\n" ++
        "\"shop\":\x7b\"openApiToolset\":\x7b\"url\":\"//LocalHost:80\"\x7d\x7d,\n" ++
        "\"pay\":\x7b\"openApiToolset\":\x7b\"url\":7\x7d\x7d\x7d\x7d").toUTF8)]⟩

end Stage

end Rule

end AgentPackage
