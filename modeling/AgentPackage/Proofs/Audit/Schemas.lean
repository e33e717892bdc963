import AgentPackage.Audit.Rules.Toolsets
import AgentPackage.Proofs.Document
import AgentPackage.Proofs.Findings
import AgentPackage.Proofs.Package.Index

/-!
# Schemas of toolsets

The schema of a toolset is the one that its manifest declares, or else the one in its folder for
schemas; a declared schema that is not there is not replaced by one that is. What becomes of the
schema is one of six outcomes, which this module states by what the file holds and not by how it is
read, and the rule about toolsets shows the one that there is and no other.

## Main definitions

* `Toolset.ResolvesTo`: a toolset has its schema in a file;
* `SchemaOutcome.Decided`: what becomes of the schema of a toolset;
* `SchemaOutcome.Happens`: an outcome shows in findings;
* `Rule.AccountsForSchema`: findings tell what becomes of the schema of a toolset.

## Main results

* `SchemaOutcome.Decided.unique`: there is one outcome at most;
* `Rule.toolsetSchema_cases`: the rule goes on with the file of the schema, or without one;
* `Rule.schemas_accounted`: the rule about toolsets accounts for each schema.
-/

namespace AgentPackage

open Findings

/-- The file of a package that the declared path of a schema stands for. -/
def Package.schemaPlace (p : Package) (text : String) : Path :=
  Declared.resolve p.root (Declared.withSlashes text)

namespace Toolset

variable {t : FileTree} {p : Package} {s : Toolset} {text text' : String} {path path' : Path}

/-- The manifest of the toolset declares the path of a schema, and the path is not empty. -/
def Declares (s : Toolset) (text : String) : Prop :=
  ∃ m part, s.entity.manifest = some m ∧ m.openApiToolset = some part ∧
    part.openApiSchema = some text ∧ text ≠ ""

/-- The toolset declares a schema that is not there. -/
def LacksDeclared (t : FileTree) (p : Package) (s : Toolset) : Prop :=
  ∃ text, s.Declares text ∧ p.pathExists t (p.schemaPlace text) = .ok false

/-- The toolset has its schema in the file. -/
inductive ResolvesTo (t : FileTree) (p : Package) (s : Toolset) : Path → Prop where
  /-- The schema is declared, and it is there. -/
  | declared {text : String} (htext : s.Declares text)
      (hthere : p.pathExists t (p.schemaPlace text) = .ok true) :
      ResolvesTo t p s (p.schemaPlace text)
  /-- No schema is declared, and the one in the folder for schemas was found. -/
  | detected {path : Path} (hnone : ∀ text, ¬ s.Declares text)
      (hpath : s.detectedSchema = some path) : ResolvesTo t p s path

theorem declaredSchema?_eq_some_iff : Rule.declaredSchema? s = some text ↔ s.Declares text := by
  simp only [Rule.declaredSchema?, ToolsetManifest.declaredSchemaPath, Option.filter_eq_some_iff,
    Option.bind_eq_some_iff, bne_iff_ne, Declares]
  constructor
  · rintro ⟨⟨m, hm, part, hpart, htext⟩, hne⟩
    exact ⟨m, part, hm, hpart, htext, hne⟩
  · rintro ⟨m, part, hm, hpart, htext, hne⟩
    exact ⟨⟨m, hm, part, hpart, htext⟩, hne⟩

theorem declaredSchema?_eq_none_iff :
    Rule.declaredSchema? s = none ↔ ∀ text, ¬ s.Declares text := by
  simp only [← declaredSchema?_eq_some_iff, Option.eq_none_iff_forall_ne_some, ne_eq]

theorem Declares.unique (h : s.Declares text) (h' : s.Declares text') : text = text' :=
  Option.some.inj
    ((declaredSchema?_eq_some_iff.mpr h).symm.trans (declaredSchema?_eq_some_iff.mpr h'))

/-- A toolset has its schema in one file at most. -/
theorem ResolvesTo.unique (h : s.ResolvesTo t p path) (h' : s.ResolvesTo t p path') :
    path = path' := by
  cases h with
  | declared htext _ =>
    cases h' with
    | declared htext' _ => rw [htext.unique htext']
    | detected hnone _ => exact absurd htext (hnone _)
  | detected hnone hpath =>
    cases h' with
    | declared htext _ => exact absurd htext (hnone _)
    | detected _ hpath' => exact Option.some.inj (hpath.symm.trans hpath')

/-- A schema in the folder for schemas does not stand in for a declared one that is not there. -/
theorem LacksDeclared.not_resolvesTo (h : s.LacksDeclared t p) : ¬ s.ResolvesTo t p path := by
  obtain ⟨text, htext, hmissing⟩ := h
  intro hresolves
  cases hresolves with
  | declared htext' hthere =>
    rw [htext.unique htext'] at hmissing
    cases hmissing.symm.trans hthere
  | detected hnone _ => exact hnone text htext

end Toolset

/-- What becomes of the schema of a toolset. -/
inductive SchemaOutcome where
  /-- There is no schema, and no folder for one. -/
  | absent
  /-- There is a folder for a schema, but no schema. -/
  | notFound
  /-- The schema has a root that is no mapping. -/
  | wrongRoot
  /-- The schema has no value. -/
  | malformed
  /-- The schema does not say which version of OpenAPI it has. -/
  | versionMissing
  /-- The schema is valid. -/
  | valid
  deriving DecidableEq, Repr

namespace SchemaOutcome

/-- The code of the issue about an outcome, if there is one. -/
def code? : SchemaOutcome → Option String
  | absent => none
  | notFound => some "CES_OPENAPI_SCHEMA_NOT_FOUND"
  | wrongRoot => some "CES_OPENAPI_INVALID_ROOT"
  | malformed => some "CES_OPENAPI_PARSE_ERROR"
  | versionMissing => some "CES_OPENAPI_VERSION_MISSING"
  | valid => none

/-- Whether a code is that of an outcome. -/
def isCode (code : String) : Bool :=
  [notFound, wrongRoot, malformed, versionMissing].any fun o => o.code? == some code

/-- What is counted of an outcome. -/
def counts : SchemaOutcome → List (String × Int)
  | valid => [("openapi_schemas_valid", 1)]
  | _ => []

/-- What becomes of a schema that has a value. -/
def ofValue : Value → SchemaOutcome
  | .map fields => if Document.hasVersionMarker fields then valid else versionMissing
  | _ => wrongRoot

/-- What becomes of the schema of a toolset, by what its file holds. -/
inductive Decided (t : FileTree) (p : Package) (s : Toolset) : SchemaOutcome → Prop where
  /-- There is no schema, and no folder for one. -/
  | absent (hnone : ∀ path, ¬ s.ResolvesTo t p path)
      (hdir : p.hasDirectory t s.schemaDir = .ok false) : Decided t p s absent
  /-- There is no schema, but a folder for one. -/
  | notFound (hnone : ∀ path, ¬ s.ResolvesTo t p path)
      (hdir : p.hasDirectory t s.schemaDir = .ok true) : Decided t p s notFound
  /-- The file of the schema has no value. -/
  | malformed {path : Path} (hpath : s.ResolvesTo t p path)
      (hvalue : ∀ v, ¬ Document.Denotes t (Document.formatOf? path) path v) :
      Decided t p s malformed
  /-- The file of the schema has a value. -/
  | read {path : Path} {v : Value} (hpath : s.ResolvesTo t p path)
      (hvalue : Document.Denotes t (Document.formatOf? path) path v) : Decided t p s (ofValue v)

/-- The findings tell of one outcome: its code is the only one of an outcome, which stands there at
most once, and nothing else is counted. -/
structure Reported (f : Findings) (o : SchemaOutcome) : Prop where
  /-- The codes of outcomes are that of the outcome. -/
  codes : (f.issues.map Issue.code).filter isCode = o.code?.toList
  /-- What is counted is the outcome. -/
  counts : f.counts = o.counts

/-- The outcome shows in findings about a toolset: an issue with its code is reported, or one more
valid schema is counted. Nothing shows where there is no schema and no folder for one. -/
def Happens (t : FileTree) (p : Package) (s : Toolset) (f : Findings) (o : SchemaOutcome) : Prop :=
  match o with
  | absent => (∀ path, ¬ s.ResolvesTo t p path) ∧ p.hasDirectory t s.schemaDir = .ok false
  | valid => f.counts = [("openapi_schemas_valid", 1)]
  | notFound | wrongRoot | malformed | versionMissing => ∃ i ∈ f.issues, o.code? = some i.code

variable {t : FileTree} {p : Package} {s : Toolset} {o o' : SchemaOutcome}

/-- There is one outcome at most. -/
theorem Decided.unique (h : Decided t p s o) (h' : Decided t p s o') : o = o' := by
  cases h with
  | absent hnone hdir =>
    cases h' with
    | absent _ _ => rfl
    | notFound _ hdir' => cases hdir.symm.trans hdir'
    | malformed hpath _ => exact absurd hpath (hnone _)
    | read hpath _ => exact absurd hpath (hnone _)
  | notFound hnone hdir =>
    cases h' with
    | absent _ hdir' => cases hdir.symm.trans hdir'
    | notFound _ _ => rfl
    | malformed hpath _ => exact absurd hpath (hnone _)
    | read hpath _ => exact absurd hpath (hnone _)
  | malformed hpath hvalue =>
    cases h' with
    | absent hnone _ => exact absurd hpath (hnone _)
    | notFound hnone _ => exact absurd hpath (hnone _)
    | malformed _ _ => rfl
    | read hpath' hvalue' =>
      rw [hpath.unique hpath'] at hvalue
      exact absurd hvalue' (hvalue _)
  | read hpath hvalue =>
    cases h' with
    | absent hnone _ => exact absurd hpath (hnone _)
    | notFound hnone _ => exact absurd hpath (hnone _)
    | malformed hpath' hvalue' =>
      rw [hpath.unique hpath'] at hvalue
      exact absurd hvalue (hvalue' _)
    | read hpath' hvalue' =>
      -- both are the outcome for the one value of the one file
      rw [hpath.unique hpath'] at hvalue
      rw [hvalue.unique hvalue']

theorem ofValue_eq_wrongRoot {v : Value} (h : ∀ fields, v ≠ .map fields) :
    ofValue v = wrongRoot := by
  cases v with
  | map fields => exact absurd rfl (h fields)
  | _ => rfl

theorem ofValue_ne_absent (v : Value) : ofValue v ≠ absent := by
  unfold ofValue
  split
  · split <;> exact nofun
  · exact nofun

/-- Where the outcome is that nothing has to be said there is no schema, and no folder for one. -/
theorem decided_absent_iff : Decided t p s absent ↔
    (∀ path, ¬ s.ResolvesTo t p path) ∧ p.hasDirectory t s.schemaDir = .ok false := by
  constructor
  · intro h
    -- the outcome is kept as a variable, since that of a value is computed
    generalize ho : absent = o at h
    cases h with
    | absent hnone hdir => exact ⟨hnone, hdir⟩
    | notFound _ _ => cases ho
    | malformed _ _ => cases ho
    | read _ _ => exact absurd ho.symm (ofValue_ne_absent _)
  · exact fun ⟨hnone, hdir⟩ => .absent hnone hdir

/-- An issue with the code of an outcome is reported exactly if the outcome is told of. -/
theorem Reported.exists_issue_iff {f : Findings} {code : String} (h : Reported f o)
    (hcode : isCode code = true) :
    (∃ i ∈ f.issues, some code = some i.code) ↔ o.code? = some code := by
  rw [← Option.mem_toList, ← h.codes, List.mem_filter, List.mem_map]
  constructor
  · rintro ⟨i, hi, heq⟩
    exact ⟨⟨i, hi, (Option.some.inj heq).symm⟩, hcode⟩
  · rintro ⟨⟨i, hi, rfl⟩, -⟩
    exact ⟨i, hi, rfl⟩

/-- Findings that tell of the outcome show it and no other. -/
theorem Reported.happens_iff {f : Findings} (h : Reported f o) (hdecided : Decided t p s o) :
    Happens t p s f o' ↔ o' = o := by
  have hcoded : ∀ code, o'.code? = some code →
      ((∃ i ∈ f.issues, o'.code? = some i.code) ↔ o' = o) := by
    intro code hcode
    -- findings that tell of one outcome hold no code of another
    have hiscode : isCode code = true := by
      cases o' <;> cases hcode <;> decide
    rw [hcode, h.exists_issue_iff hiscode, ← hcode]
    -- and the codes of two outcomes differ
    cases o' <;> cases hcode <;> cases o <;> simp [code?]
  cases o' with
  | absent =>
    rw [Happens, ← decided_absent_iff]
    exact ⟨fun habsent => habsent.unique hdecided, fun heq => heq ▸ hdecided⟩
  | valid =>
    rw [Happens, h.counts]
    cases o <;> simp [SchemaOutcome.counts]
  | notFound => exact hcoded _ rfl
  | wrongRoot => exact hcoded _ rfl
  | malformed => exact hcoded _ rfl
  | versionMissing => exact hcoded _ rfl

end SchemaOutcome

namespace Rule

open SchemaOutcome

variable {t : FileTree} {p : Package} {s : Toolset} {path : Path}

/-- Nothing is reported but the outcome, once. -/
def TellsOnly (f : Findings) (o : SchemaOutcome) : Prop :=
  f.issues.map Issue.code = o.code?.toList ∧ f.counts = o.counts

section File

variable (hpath : s.ResolvesTo t p path)

include hpath

/-- What is reported of the document of a schema is the outcome for the value of its file. -/
theorem schemaDocument_settles {d : Document} (hread : Document.readByExtension t path = .ok d)
    (h : (schemaDocument t path d).failure = none) :
    ∃ o, Decided t p s o ∧ TellsOnly (schemaDocument t path d) o := by
  have hanswers := Document.answers_of_readByExtension hread
  cases d with
  | wrongRoot format text =>
    obtain ⟨v, hv, hroot⟩ := hanswers.wrongRoot.mp rfl
    have hv := Decided.read hpath hv
    rw [ofValue_eq_wrongRoot hroot] at hv
    exact ⟨_, hv, rfl, rfl⟩
  | record fields text =>
    have hv := Decided.read hpath ((hanswers.fields fields).mp rfl)
    rw [ofValue] at hv
    rw [schemaDocument] at h ⊢
    split at hv
    · rename_i hversion
      rw [if_pos hversion]
      exact ⟨_, hv, rfl, rfl⟩
    · rename_i hversion
      -- the line of the issue was found, or the rule would have failed
      rw [if_neg hversion] at h ⊢
      obtain ⟨line, hline, -⟩ := failure_check_eq_none.mp h
      rw [hline]
      exact ⟨_, hv, rfl, rfl⟩
  | _ =>
    -- whatever else is wrong with the document, the file has no value
    exact ⟨_, .malformed hpath (hanswers.not_denotes rfl rfl), rfl, rfl⟩

/-- What is reported of a schema in a file is the outcome. -/
theorem schemaFile_settles (h : (schemaFile t path).failure = none) :
    ∃ o, Decided t p s o ∧ TellsOnly (schemaFile t path) o := by
  obtain ⟨d, hread, h⟩ := failure_check_eq_none.mp h
  rw [schemaFile, hread]
  exact schemaDocument_settles hpath hread h

end File

/-- What is reported where there is no schema is the outcome, and it says nothing of a content. -/
theorem noSchemaFile_settles (hnone : ∀ path, ¬ s.ResolvesTo t p path)
    (hname : FileTree.isNameable s.entity.manifestPath = true)
    (h : (noSchemaFile t p s).failure = none) :
    ∃ o, Decided t p s o ∧ TellsOnly (noSchemaFile t p s) o ∧ (o = absent ∨ o = notFound) := by
  obtain ⟨hasDirectory, hdir, -⟩ := failure_check_eq_none.mp h
  rw [noSchemaFile, hdir]
  cases hasDirectory with
  | false => exact ⟨absent, .absent hnone hdir, ⟨rfl, rfl⟩, .inl rfl⟩
  | true =>
    obtain ⟨line, -, herror⟩ := exists_errorAt_eq hname t "CES_OPENAPI_SCHEMA_NOT_FOUND"
      ("Toolset '" ++ s.entity.name ++ "' has open_api_toolset directory but no schema file")
      "openApiToolset"
    rw [check, when, if_pos rfl, herror]
    exact ⟨notFound, .notFound hnone hdir, ⟨rfl, rfl⟩, .inr rfl⟩

/-- If the issue says that a schema of the toolset cannot be read it gives the reason. The reason is
not the extension of the name for a schema that was found in the folder for schemas. -/
def GivesReason (t : FileTree) (p : Package) (s : Toolset) (i : Issue) : Prop :=
  malformed.code? = some i.code →
    ∃ path d reason, s.ResolvesTo t p path ∧ Document.readByExtension t path = .ok d ∧
      d.error? = some reason ∧ i.message = "OpenAPI schema parse error: " ++ reason ∧
      (s.detectedSchema = some path → ∀ extension, d ≠ .unsupported extension)

/-- A file with the extension of a schema is read in a format. -/
theorem ne_unsupported (hextension : path.extension ∈ Index.schemaExtensions) {d : Document}
    (hread : Document.readByExtension t path = .ok d) (extension : String) :
    d ≠ .unsupported extension := by
  -- the extensions that are looked for are all extensions of formats
  have hformat : ∃ format, Document.formatOf? path = some format := by
    simp only [Index.schemaExtensions, List.mem_cons, List.not_mem_nil, or_false] at hextension
    rcases hextension with h | h | h <;> simp [Document.formatOf?, h]
  obtain ⟨format, hformat⟩ := hformat
  unfold Document.readByExtension at hread
  rw [hformat] at hread
  exact Document.ne_unsupported_of_read hread extension

/-- That a schema cannot be read is reported with the reason. -/
theorem schemaFile_reason (hpath : s.ResolvesTo t p path)
    (hsupported : ∀ path, s.detectedSchema = some path → path.extension ∈ Index.schemaExtensions) :
    (schemaFile t path).Only (GivesReason t p s) := by
  unfold schemaFile
  cases hread : Document.readByExtension t path with
  | error f => exact only_failed f
  | ok d =>
    cases d with
    | wrongRoot format text => exact only_error fun hcode => absurd hcode (by simp [code?])
    | record fields text =>
      rw [check, schemaDocument]
      split
      · exact only_counted _
      · exact only_check fun line => only_error fun hcode => absurd hcode (by simp [code?])
    | _ =>
      exact only_error fun _ => ⟨path, _, _, hpath, hread, rfl, rfl,
        fun hdetected => ne_unsupported (hsupported path hdetected) hread⟩

theorem noSchemaFile_reason : (noSchemaFile t p s).Only (GivesReason t p s) :=
  only_check fun _ => only_when (only_errorAt fun _ hcode => absurd hcode (by simp [code?]))

/-- The findings where a schema is declared that is not there. -/
def missingSchema (t : FileTree) (s : Toolset) (text : String) : Findings :=
  errorAt t "CES_OPENAPI_SCHEMA_MISSING"
    ("Declared OpenAPI schema does not exist: " ++ Declared.withSlashes text)
    s.entity.manifestPath "openApiSchema"

/-- The rule goes on with the file of the schema, or without one; that a declared one is not there
is reported first. -/
theorem toolsetSchema_cases (h : (toolsetSchema t p s).failure = none) :
    (∃ path, s.ResolvesTo t p path ∧ toolsetSchema t p s = schemaFile t path) ∨
      (s.LacksDeclared t p ∧
        ∃ text, toolsetSchema t p s = missingSchema t s text ++ noSchemaFile t p s) ∨
      ((∀ path, ¬ s.ResolvesTo t p path) ∧ ¬ s.LacksDeclared t p ∧
        toolsetSchema t p s = noSchemaFile t p s) := by
  cases hdeclared : declaredSchema? s with
  | none =>
    have hnone := Toolset.declaredSchema?_eq_none_iff.mp hdeclared
    cases hdetected : s.detectedSchema with
    | some path =>
      exact .inl ⟨path, .detected hnone hdetected, by rw [toolsetSchema, hdeclared, hdetected]⟩
    | none =>
      refine .inr (.inr ⟨fun path hpath => ?_, fun ⟨text, htext, _⟩ => hnone text htext, ?_⟩)
      · -- a schema in a file is either declared or was found
        cases hpath with
        | declared htext _ => exact hnone _ htext
        | detected _ hpath => cases hdetected.symm.trans hpath
      · rw [toolsetSchema, hdeclared, hdetected]
  | some text =>
    have htext := Toolset.declaredSchema?_eq_some_iff.mp hdeclared
    have hschema : toolsetSchema t p s =
        check (p.pathExists t (p.schemaPlace text)) fun pathExists =>
          if pathExists then schemaFile t (p.schemaPlace text)
          else missingSchema t s text ++ noSchemaFile t p s := by
      rw [toolsetSchema, hdeclared]
      rfl
    rw [hschema] at h ⊢
    obtain ⟨pathExists, hexists, -⟩ := failure_check_eq_none.mp h
    rw [hexists, check]
    cases pathExists with
    | true => exact .inl ⟨_, .declared htext hexists, if_pos rfl⟩
    | false => exact .inr (.inl ⟨⟨text, htext, hexists⟩, text, if_neg Bool.false_ne_true⟩)

/-- The findings account for the schema of a toolset. -/
structure AccountsForSchema (t : FileTree) (p : Package) (s : Toolset) (f : Findings) : Prop where
  /-- Exactly one outcome shows, and it is the one that the file of the schema decides. -/
  outcome : ∃ o, Decided t p s o ∧ Reported f o ∧ ∀ o', Happens t p s f o' ↔ o' = o
  /-- It is reported that the schema is missing exactly if a declared one is not there. -/
  missing : (∃ i ∈ f.issues, i.code = "CES_OPENAPI_SCHEMA_MISSING") ↔ s.LacksDeclared t p
  /-- Without the declared schema nothing is said of another one, and nothing is counted. -/
  content : s.LacksDeclared t p →
    f.counts = [] ∧ ∀ o, Happens t p s f o → o = absent ∨ o = notFound
  /-- That a schema cannot be read is reported with the reason, which is not the extension of its
  name if it was found in the folder for schemas. -/
  reason : f.Only (GivesReason t p s)

section Accounts

variable {front rest : Findings} {o : SchemaOutcome}

/-- The codes of issues that stand in front of those about the schema. -/
def isFrontCode (code : String) : Bool :=
  code == "CES_TOOLSET_FIELD_INVALID" || code == "CES_OPENAPI_SCHEMA_MISSING"

/-- The code of no outcome is one of those in front. -/
theorem isFrontCode_of_code? {code : String} (h : o.code? = some code) :
    isFrontCode code = false ∧ isCode code = true := by
  cases o <;> cases h <;> decide

theorem isCode_of_isFrontCode {code : String} (h : isFrontCode code = true) :
    isCode code = false := by
  simp only [isFrontCode, Bool.or_eq_true, beq_iff_eq] at h
  rcases h with rfl | rfl <;> decide

theorem TellsOnly.mem_issues (h : TellsOnly rest o) {i : Issue} (hi : i ∈ rest.issues) :
    o.code? = some i.code := by
  rw [← Option.mem_toList, ← h.1]
  exact List.mem_map_of_mem hi

/-- Findings that tell nothing but the outcome account for the schema, behind others in which it is
said whether a declared schema is missing. -/
theorem accounts_of_append (hfront : front.failure = none) (hcounts : front.counts = [])
    (hcodes : front.Only fun i => isFrontCode i.code = true)
    (hmissing : (∃ i ∈ front.issues, i.code = "CES_OPENAPI_SCHEMA_MISSING") ↔ s.LacksDeclared t p)
    (hdecided : Decided t p s o) (htells : TellsOnly rest o)
    (hcontent : s.LacksDeclared t p → o = absent ∨ o = notFound)
    (hreason : rest.Only (GivesReason t p s)) : AccountsForSchema t p s (front ++ rest) := by
  -- the issues in front are about no outcome, so the outcome is what stands behind them
  have hreported : Reported (front ++ rest) o := by
    constructor
    · have hnone : (front.issues.map Issue.code).filter isCode = [] := by
        rw [List.filter_eq_nil_iff, List.forall_mem_map]
        exact fun i hi => Bool.eq_false_iff.mp (isCode_of_isFrontCode (hcodes i hi))
      have hall : o.code?.toList.filter isCode = o.code?.toList :=
        List.filter_eq_self.mpr fun c hc => (isFrontCode_of_code? (Option.mem_toList.mp hc)).2
      rw [issues_append hfront, List.map_append, List.filter_append, hnone, htells.1, hall,
        List.nil_append]
    · rw [counts_append hfront, hcounts, htells.2, List.nil_append]
  refine ⟨⟨o, hdecided, hreported, fun _ => hreported.happens_iff hdecided⟩, ?_, fun hlacks => ?_,
    only_append (fun i hi hcode => ?_) hreason⟩
  · rw [← hmissing, issues_append hfront]
    constructor
    · rintro ⟨i, hi, hcode⟩
      rcases List.mem_append.mp hi with hi | hi
      · exact ⟨i, hi, hcode⟩
      · -- no outcome has this code
        have hout := (isFrontCode_of_code? (htells.mem_issues hi)).1
        rw [hcode] at hout
        exact absurd hout (by decide)
    · exact fun ⟨i, hi, hcode⟩ => ⟨i, List.mem_append_left _ hi, hcode⟩
  · refine ⟨?_, fun o' ho' => ?_⟩
    · rw [hreported.counts]
      rcases hcontent hlacks with rfl | rfl <;> rfl
    · rw [(hreported.happens_iff hdecided).mp ho']
      exact hcontent hlacks
  · -- the issues in front do not say that a schema cannot be read
    have hout := (isFrontCode_of_code? hcode).1
    rw [hcodes i hi] at hout
    cases hout

/-- The findings about a toolset with a manifest account for its schema. -/
theorem toolsetFindings_accounts (herror : s.entity.error = none)
    (hname : FileTree.isNameable s.entity.manifestPath = true)
    (hsupported : ∀ path, s.detectedSchema = some path → path.extension ∈ Index.schemaExtensions)
    (h : (toolsetFindings t p s).failure = none) :
    AccountsForSchema t p s (toolsetFindings t p s) := by
  let fields := fieldErrors t "CES_TOOLSET_FIELD_INVALID" ("Toolset '" ++ s.entity.name ++ "'")
    s.entity.manifestPath s.entity.fieldIssues
  have hfindings : toolsetFindings t p s = fields ++ toolsetSchema t p s := by
    rw [toolsetFindings, herror]
  have hfailure : fields.failure = none := failure_fieldErrors hname
  have hcounts : fields.counts = [] := counts_fieldErrors hname
  have hcode : fields.Only fun i => i.code = "CES_TOOLSET_FIELD_INVALID" :=
    only_fieldErrors fun _ _ => rfl
  have hfront : fields.Only fun i => isFrontCode i.code = true :=
    hcode.mono fun i hi => by rw [hi]; decide
  have hmissing : ¬ ∃ i ∈ fields.issues, i.code = "CES_OPENAPI_SCHEMA_MISSING" := by
    rintro ⟨i, hi, heq⟩
    exact absurd ((hcode i hi).symm.trans heq) (by decide)
  rw [hfindings] at h ⊢
  obtain ⟨-, h⟩ := failure_append_eq_none.mp h
  rcases toolsetSchema_cases h with ⟨path, hpath, heq⟩ | ⟨hlacks, text, heq⟩ | ⟨hnone, hlacks, heq⟩
  · -- the schema is in a file
    rw [heq] at h ⊢
    obtain ⟨o, hdecided, htells⟩ := schemaFile_settles hpath h
    have hlacks : ¬ s.LacksDeclared t p := fun hlacks => hlacks.not_resolvesTo hpath
    exact accounts_of_append hfailure hcounts hfront (iff_of_false hmissing hlacks) hdecided htells
      (fun h => absurd h hlacks) (schemaFile_reason hpath hsupported)
  · -- the declared schema is not there, which is reported behind the fields
    rw [heq] at h ⊢
    obtain ⟨-, h⟩ := failure_append_eq_none.mp h
    obtain ⟨o, hdecided, htells, ho⟩ :=
      noSchemaFile_settles (fun _ => hlacks.not_resolvesTo) hname h
    obtain ⟨line, -, hissue⟩ := exists_errorAt_eq hname t "CES_OPENAPI_SCHEMA_MISSING"
      ("Declared OpenAPI schema does not exist: " ++ Declared.withSlashes text) "openApiSchema"
    rw [← append_assoc, missingSchema, hissue]
    refine accounts_of_append (failure_append_eq_none.mpr ⟨hfailure, rfl⟩) ?_
      (only_append hfront (only_error rfl)) (iff_of_true ?_ hlacks) hdecided htells (fun _ => ho)
      noSchemaFile_reason
    · rw [counts_append hfailure, hcounts]
      rfl
    · rw [issues_append hfailure]
      exact ⟨_, List.mem_append_right _ List.mem_cons_self, rfl⟩
  · -- there is no schema
    rw [heq] at h ⊢
    obtain ⟨o, hdecided, htells, ho⟩ := noSchemaFile_settles hnone hname h
    exact accounts_of_append hfailure hcounts hfront (iff_of_false hmissing hlacks) hdecided htells
      (fun _ => ho) noSchemaFile_reason

end Accounts

/-- The rule about toolsets accounts for each schema: unless it fails, its findings are those about
the toolsets, one after another, and those about a toolset with a manifest account for its schema.
The package was indexed in a tree `t₀`, which may have changed since into `t`. -/
theorem schemas_accounted {t₀ : FileTree} (hindexed : p.Indexed t₀) {settings : AuditSettings}
    (h : (toolsets.findings t p settings).failure = none) :
    (toolsets.findings t p settings).issues =
        p.toolsets.flatMap (fun s => (toolsetFindings t p s).issues) ∧
      (toolsets.findings t p settings).counts =
        p.toolsets.flatMap (fun s => (toolsetFindings t p s).counts) ∧
      ∀ s ∈ p.toolsets, ∀ m, s.entity.manifest = some m →
        AccountsForSchema t p s (toolsetFindings t p s) := by
  refine ⟨issues_all h, counts_all h, fun s hs m hm => ?_⟩
  obtain ⟨dirs, -, hss⟩ := Index.toolsets_eq_ok_iff.mp hindexed.toolsets
  obtain ⟨dir, -, htoolset⟩ := hss.exists_of_mem_right hs
  obtain ⟨hentity, -, hschema⟩ := Index.toolset_eq_ok_iff.mp htoolset
  obtain ⟨herror, _, _, _, hread, -⟩ := Index.loaded_of_manifest hentity hm
  refine toolsetFindings_accounts herror (Document.isNameable_of_read hread) (fun path hpath => ?_)
    (failure_all_eq_none.mp h s hs)
  rw [hpath] at hschema
  exact Index.extension_of_firstSchema hschema

section Catalog

/-- A package with a toolset that declares a schema that is not there, although there is another
one, and a toolset that declares none. -/
def catalog : FileTree :=
  ⟨[(["toolsets"], .directory), (["toolsets", "cart"], .directory),
    (["toolsets", "cart", "cart.json"],
      .file "\x7b\"openApiToolset\":\x7b\"openApiSchema\":\"old.yaml\"\x7d\x7d".toUTF8),
    (["toolsets", "cart", "open_api_toolset"], .directory),
    (["toolsets", "cart", "open_api_toolset", "new.json"], .file "\x7b\"openapi\":3\x7d".toUTF8),
    (["toolsets", "shop"], .directory),
    (["toolsets", "shop", "shop.json"], .file "\x7b\x7d".toUTF8),
    (["toolsets", "shop", "open_api_toolset"], .directory),
    (["toolsets", "shop", "open_api_toolset", "shop.json"],
      .file "\x7b\"swagger\":2\x7d".toUTF8)]⟩

set_option maxRecDepth 10000 in
/-- In the package the declared schema is missing and none is found in its place; the other toolset
has a valid one. -/
theorem schemas_accounted_catalog :
    ∃ p, Package.index catalog ⟨.root, []⟩ = .ok p ∧ p.Indexed catalog ∧
      (toolsets.findings catalog p {}).failure = none ∧
      (toolsets.findings catalog p {}).issues.map Issue.code =
        ["CES_OPENAPI_SCHEMA_MISSING", "CES_OPENAPI_SCHEMA_NOT_FOUND"] ∧
      (toolsets.findings catalog p {}).counts = [("openapi_schemas_valid", 1)] ∧
      ∀ s ∈ p.toolsets, ∀ m, s.entity.manifest = some m →
        AccountsForSchema catalog p s (toolsetFindings catalog p s) := by
  have hrun : ∃ p, Package.index catalog ⟨.root, []⟩ = .ok p ∧
      (toolsets.findings catalog p {}).failure = none ∧
      (toolsets.findings catalog p {}).issues.map Issue.code =
        ["CES_OPENAPI_SCHEMA_MISSING", "CES_OPENAPI_SCHEMA_NOT_FOUND"] ∧
      (toolsets.findings catalog p {}).counts = [("openapi_schemas_valid", 1)] := by
    decide +kernel
  obtain ⟨p, hindex, hfailure, hissues, hcounts⟩ := hrun
  have hindexed := (Package.index_eq_ok_iff.mp hindex).2
  exact ⟨p, hindex, hindexed, hfailure, hissues, hcounts, (schemas_accounted hindexed hfailure).2.2⟩

end Catalog

end Rule

end AgentPackage
