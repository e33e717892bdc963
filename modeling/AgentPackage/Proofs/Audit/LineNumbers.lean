import AgentPackage.Proofs.Audit.Codes
import AgentPackage.Proofs.Audit.Report
import AgentPackage.Proofs.Instruction.Numbering
import AgentPackage.Proofs.Package.Agents
import AgentPackage.Proofs.Text.Occurrence

/-!
# Line numbers of issues

The line of an issue comes from one of three sources: it was looked for in a file, it was recorded
while an instruction was read, or it is the first line. In each case it is a line of the file that
the issue is about, as long as the file is a text.

## Main definitions

* `Document.FindsFirst`: what is found is the first line of a file that holds one of some words;
* `Issue.PointsInto`: the line of an issue is one of its file;
* `Audit.IsLineIn`: a line is none, or one of a file.

## Main results

* `Document.findLine_eq_some_iff`: which line of a file is found;
* `Audit.pointsInto_of_mem_battery`: the line of every issue of a rule is one of its file;
* `Audit.lines_point_into`: so is that of every issue of an audit.
-/

namespace AgentPackage

open Findings

namespace Document

variable {t : FileTree} {path : Path} {test : List Char → Bool} {text : List Char} {n : Nat}
  {line : Option Nat}

/-- In a file that is a text, the first line is found that passes the test. -/
theorem findLine_of_readText (htext : t.readText path path = .ok text) :
    findLine t path test = .ok (Text.firstLine test text) := by
  unfold findLine
  rw [htext]

/-- A line is found only in a file that is a text, and it is the first one that passes the test. -/
theorem findLine_eq_some_iff :
    findLine t path test = .ok (some n) ↔
      ∃ text before line after, t.readText path path = .ok text ∧
        Text.lines text = before ++ line :: after ∧ n = before.length + 1 ∧ test line = true ∧
          ∀ l ∈ before, test l = false := by
  unfold findLine
  cases hread : t.readText path path with
  | error fault => cases fault <;> simp
  | ok text => simp [Text.firstLine_eq_some_iff]

/-- The line holds one of the words. -/
def HoldsAny (words : List String) (line : List Char) : Prop :=
  ∃ word ∈ words, word.toList <:+: line

/-- What was found in a file is its first line that holds one of some words, or no line of the file
does. -/
structure FindsFirst (t : FileTree) (file : Path) (words : List String) (found : Option Nat) :
    Prop where
  /-- A line that is found is the first one of a text that holds one of the words. -/
  first : ∀ n, found = some n → ∃ text before line after, t.readText file file = .ok text ∧
    Text.lines text = before ++ line :: after ∧ n = before.length + 1 ∧ HoldsAny words line ∧
      ∀ l ∈ before, ¬ HoldsAny words l
  /-- None is found in a text only if no line holds one of the words. -/
  missing : found = none → ∀ text, t.readText file file = .ok text →
    ∀ l ∈ Text.lines text, ¬ HoldsAny words l

/-- Looking for a line with a test finds the first one with one of some words, if these are what the
test looks for. -/
theorem findsFirst_of_findLine {words : List String} {found : Option Nat}
    (htest : ∀ l, test l = true ↔ HoldsAny words l) (h : findLine t path test = .ok found) :
    FindsFirst t path words found := by
  have hnot : ∀ l, test l = false ↔ ¬ HoldsAny words l := fun l => by
    rw [← htest, Bool.not_eq_true]
  refine ⟨?_, ?_⟩
  · rintro n rfl
    obtain ⟨text, before, line, after, htext, hlines, hn, hline, hbefore⟩ :=
      findLine_eq_some_iff.mp h
    exact ⟨text, before, line, after, htext, hlines, hn, (htest line).mp hline,
      fun l hl => (hnot l).mp (hbefore l hl)⟩
  · rintro rfl text htext l hl
    rw [findLine_of_readText htext, Except.ok.injEq, Text.firstLine_eq_none_iff] at h
    exact (hnot l).mp (h l hl)

theorem findsFirst_lineContaining {token : String} {found : Option Nat}
    (h : lineContaining t path token = .ok found) : FindsFirst t path [token] found :=
  findsFirst_of_findLine (fun l => by simp [HoldsAny, Text.occursIn_iff]) h

theorem findsFirst_lineOfVersionMarker {found : Option Nat}
    (h : lineOfVersionMarker t path = .ok found) :
    FindsFirst t path ["openapi", "swagger"] found :=
  findsFirst_of_findLine (fun l => by simp [HoldsAny, Text.occursIn_iff]) h

end Document

/-- If the file of an issue is a text, the line of the issue is one of its lines. -/
def Issue.PointsInto (t : FileTree) (cwd : Path) (i : Issue) : Prop :=
  ∀ n text, i.line = some n →
    t.readText (Path.ofString i.file) (FileTree.absolute cwd (Path.ofString i.file)) = .ok text →
      1 ≤ n ∧ n ≤ (Text.lines text).length

namespace Audit

variable {t : FileTree} {cwd path : Path} {code message token subject : String} {line : Option Nat}
  {severity : Severity}

/-- If the file is a text, the line is one of its lines, or none. -/
def IsLineIn (t : FileTree) (path : Path) (line : Option Nat) : Prop :=
  ∀ n text, line = some n → t.readText path path = .ok text → Text.IsLineNumber text n

theorem isLineIn_one : IsLineIn t path (some 1) := by
  rintro n text ⟨⟩ -
  exact Text.isLineNumber_one text

/-- A line that is looked for in a file is one of its lines. -/
theorem isLineIn_of_findLine {test : List Char → Bool}
    (h : Document.findLine t path test = .ok line) : IsLineIn t path line := by
  rintro n text rfl htext
  rw [Document.findLine_of_readText htext] at h
  exact Text.isLineNumber_of_firstLine (Except.ok.inj h)

/-- So it is if the first line stands in for it. -/
theorem IsLineIn.getD_one (h : IsLineIn t path line) : IsLineIn t path (some (line.getD 1)) := by
  cases line with
  | none => exact isLineIn_one
  | some n => exact h

theorem pointsInto_one {file : String} :
    Issue.PointsInto t cwd ⟨code, message, severity, file, some 1⟩ := by
  rintro n text ⟨⟩ -
  obtain ⟨hfirst, hlast⟩ := Text.isLineNumber_one text
  exact ⟨by omega, by omega⟩

section Places

variable (hpath : path.Proper ∧ path.isAbsolute = true)

include hpath

/-- An issue about a line of the file at a path points into the file. -/
theorem pointsInto_of_isLineIn (h : IsLineIn t path line) :
    Issue.PointsInto t cwd ⟨code, message, severity, path.text, line.map Int.ofNat⟩ := by
  intro n text hn htext
  obtain ⟨k, hk, rfl⟩ := Option.map_eq_some_iff.mp hn
  -- the text of the path is that of no other one
  have hfile : FileTree.absolute cwd (Path.ofString path.text) = path := by
    rw [Path.ofString_text hpath.1 hpath.2, FileTree.absolute, if_pos hpath.2]
  rw [hfile, Path.ofString_text hpath.1 hpath.2] at htext
  obtain ⟨hfirst, hlast⟩ := h k text hk htext
  exact ⟨Int.ofNat_le.mpr hfirst, Int.ofNat_le.mpr hlast⟩

theorem only_error_pointsInto (h : IsLineIn t path line) :
    (error code message path line).Only (Issue.PointsInto t cwd) :=
  only_error (pointsInto_of_isLineIn hpath h)

theorem only_warning_pointsInto (h : IsLineIn t path line) :
    (warning code message path line).Only (Issue.PointsInto t cwd) :=
  only_warning (pointsInto_of_isLineIn hpath h)

theorem only_errorAt_pointsInto :
    (errorAt t code message path token).Only (Issue.PointsInto t cwd) :=
  only_check_of_ok fun _ hline => only_error_pointsInto hpath (isLineIn_of_findLine hline)

theorem only_warningAt_pointsInto :
    (warningAt t code message path token).Only (Issue.PointsInto t cwd) :=
  only_check_of_ok fun _ hline => only_warning_pointsInto hpath (isLineIn_of_findLine hline)

theorem only_fieldErrors_pointsInto {issues : List FieldIssue} :
    (fieldErrors t code subject path issues).Only (Issue.PointsInto t cwd) :=
  only_all fun _ _ => only_errorAt_pointsInto hpath

end Places

/-- An error about the first line of a file points into it. -/
theorem only_error_one {file : Path} :
    (error code message file (some 1)).Only (Issue.PointsInto t cwd) :=
  only_error pointsInto_one

theorem only_warning_one {file : Path} :
    (warning code message file (some 1)).Only (Issue.PointsInto t cwd) :=
  only_warning pointsInto_one

end Audit

namespace Rule

open Audit

variable {t : FileTree} {cwd : Path} {p : Package} {settings : AuditSettings}

section Root

variable (hroot : p.root.Proper ∧ p.root.isAbsolute = true)

include hroot

theorem rootManifest_pointsInto :
    (rootManifest.findings t p settings).Only (Issue.PointsInto t cwd) := by
  simp only [rootManifest]
  split
  · exact only_error_one
  · rename_i path hpath
    have hproper := (Package.isEntryOf_of_manifestPath? hpath).proper_isAbsolute hroot
    refine only_append ?_ ?_
    · unfold manifestChoice
      split
      · exact only_warning_one
      · split
        · exact only_warning_one
        · exact only_nothing
    · unfold manifestContent
      split
      · exact only_error_one
      · split
        · exact only_error_one
        · exact only_fieldErrors_pointsInto hproper

theorem rootAgent_pointsInto :
    (rootAgent.findings t p settings).Only (Issue.PointsInto t cwd) := by
  simp only [rootAgent]
  split
  · rename_i m path hm hpath
    have hproper := (Package.isEntryOf_of_manifestPath? hpath).proper_isAbsolute hroot
    -- the line that is looked for is that of each issue about the manifest
    refine only_check_of_ok fun line hline => ?_
    have hin := isLineIn_of_findLine hline
    split
    · exact only_when (only_error_pointsInto hproper hin)
    · refine only_check fun hasDirectory => ?_
      split
      · exact only_error_pointsInto hproper hin
      · exact only_check fun hasFile => only_when only_error_one
  · exact only_nothing

theorem globalInstruction_pointsInto :
    (globalInstruction.findings t p settings).Only (Issue.PointsInto t cwd) := by
  simp only [globalInstruction]
  split
  · rename_i m path hm hpath
    have hproper := (Package.isEntryOf_of_manifestPath? hpath).proper_isAbsolute hroot
    split
    · exact only_nothing
    · exact only_check fun pathExists => only_when (only_errorAt_pointsInto hproper)
  · exact only_nothing

theorem guardrailReferences_pointsInto :
    (guardrailReferences.findings t p settings).Only (Issue.PointsInto t cwd) := by
  simp only [guardrailReferences]
  split
  · rename_i m path hm hpath
    have hproper := (Package.isEntryOf_of_manifestPath? hpath).proper_isAbsolute hroot
    refine only_all fun reference _ => only_when (only_check_of_ok fun found hfound => ?_)
    cases found with
    | none => exact only_errorAt_pointsInto hproper
    | some file =>
      -- the manifest of the guardrail is one of the places where it is looked for
      have hfile := Guardrail.candidates_proper hroot.1 hroot.2
        (Except.mem_of_findM?_eq_ok hfound)
      refine only_check fun document => ?_
      unfold guardrailManifest
      split
      · exact only_error_one
      · refine only_check fun loaded => only_append (only_append ?_ (only_counted _)) ?_
        · exact only_fieldErrors_pointsInto hfile
        · split
          · exact only_nothing
          · exact only_when (only_warningAt_pointsInto hfile)
  · exact only_nothing

theorem unsupportedDirectories_pointsInto :
    (unsupportedDirectories.findings t p settings).Only (Issue.PointsInto t cwd) := by
  have hproper := p.isEntryOf_defaultManifestPath.proper_isAbsolute hroot
  refine only_all fun name _ => only_when (only_check_of_ok fun line hline => ?_)
  exact only_error_pointsInto hproper (isLineIn_of_findLine hline).getD_one

omit hroot in
theorem nestingDepth_pointsInto :
    (nestingDepth.findings t p settings).Only (Issue.PointsInto t cwd) := by
  refine only_all fun file _ => ?_
  unfold fileDepth
  dsimp only
  split
  · exact only_nothing
  · split
    · exact only_nothing
    · exact only_when only_warning_one

end Root

section Entities

variable (hindexed : p.Indexed t) (ht : t.WellFormed)
  (hroot : p.root.Proper ∧ p.root.isAbsolute = true)

include hindexed ht hroot

theorem agents_pointsInto : (agents.findings t p settings).Only (Issue.PointsInto t cwd) := by
  refine only_all fun agent hagent => ?_
  have hproper := hindexed.agent_proper ht.proper hroot.1 hroot.2 hagent
  unfold agentFindings
  refine only_append ?_ ?_
  · split
    · exact only_error_one
    · exact only_nothing
  · split
    · exact only_nothing
    · rename_i manifest _
      have hinstruction : (agentInstruction t p agent manifest).Only (Issue.PointsInto t cwd) := by
        refine only_check_of_ok fun line hline => ?_
        have hin := isLineIn_of_findLine hline
        dsimp only
        split
        · exact only_when (only_error_pointsInto hproper hin)
        · exact only_append (only_when (only_error_pointsInto hproper hin))
            (only_check fun pathExists => only_when (only_error_pointsInto hproper hin))
      refine only_append (only_append (only_append ?_ hinstruction) ?_) ?_
      · exact only_fieldErrors_pointsInto hproper
      · exact only_all fun child _ => only_when (only_errorAt_pointsInto hproper)
      · exact only_all fun toolset _ => only_when (only_errorAt_pointsInto hproper)

omit hindexed ht hroot in
theorem schemaFile_pointsInto {path : Path} (hpath : path.Proper ∧ path.isAbsolute = true) :
    (schemaFile t path).Only (Issue.PointsInto t cwd) := by
  refine only_check fun document => ?_
  unfold schemaDocument
  split
  · exact only_error_one
  · split
    · exact only_counted _
    · exact only_check_of_ok fun line hline =>
        only_error_pointsInto hpath (isLineIn_of_findLine hline)
  · exact only_error_one

theorem toolsets_pointsInto : (toolsets.findings t p settings).Only (Issue.PointsInto t cwd) := by
  refine only_all fun toolset htoolset => ?_
  have hproper := (hindexed.toolset_proper ht.proper hroot.1 hroot.2 htoolset).1
  have hschema : ∀ path, schemaPath? p toolset = some path →
      (schemaFile t path).Only (Issue.PointsInto t cwd) :=
    fun path hpath => schemaFile_pointsInto <|
      schemaPath_proper hindexed ht.proper hroot.1 hroot.2 htoolset hpath
  have hnone : (noSchemaFile t p toolset).Only (Issue.PointsInto t cwd) :=
    only_check fun hasDirectory => only_when (only_errorAt_pointsInto hproper)
  unfold toolsetFindings
  split
  · exact only_error_one
  · refine only_append (only_fieldErrors_pointsInto hproper) ?_
    unfold toolsetSchema
    split
    · rename_i hdeclared
      split
      · rename_i path hpath
        exact hschema path (by rw [schemaPath?, hdeclared, hpath])
      · exact hnone
    · rename_i declared hdeclared
      refine only_check fun pathExists => ?_
      split
      · exact hschema _ (by rw [schemaPath?, hdeclared])
      · exact only_append (only_errorAt_pointsInto hproper) hnone

theorem evaluations_pointsInto :
    (evaluations.findings t p settings).Only (Issue.PointsInto t cwd) := by
  refine only_all fun evaluation hevaluation => ?_
  have hfolder : (p.root.entry "evaluations").Proper := Path.entry_proper hroot.1 (by decide)
  have hat := hindexed.evaluationEntities.entityAt ht hfolder hevaluation
  have hproper : evaluation.manifestPath.Proper ∧ evaluation.manifestPath.isAbsolute = true := by
    rw [hat.manifestPath]
    exact Index.manifestPlace_proper hroot.1 hroot.2 (by decide) hat.isFileName
  unfold evaluationFindings
  split
  · exact only_error_one
  · exact only_nothing
  · refine only_append (only_append (only_fieldErrors_pointsInto hproper) ?_)
      (only_all fun call _ => only_check_of_ok fun line hline => ?_)
    · unfold evaluationName
      split
      · exact only_nothing
      · exact only_when (only_warningAt_pointsInto hproper)
    · have hin := isLineIn_of_findLine hline
      split
      · exact only_error_pointsInto hproper hin
      · exact only_when (only_error_pointsInto hproper hin)

theorem instructions_pointsInto :
    (instructions.findings t p settings).Only (Issue.PointsInto t cwd) := by
  refine only_all fun i hi => only_when ?_
  have hproper := hindexed.instruction_proper ht hroot.1 hroot.2 hi
  have hparse := Index.parseFile_of_mem_instructions hindexed.instructions hi
  -- what the instruction records are lines of the file that it was read from
  have hreference : ∀ r ∈ i.references, IsLineIn t i.path (some r.line) := by
    rintro r hr n text ⟨⟩ htext
    exact (Markup.isLineNumber_parseFile hparse htext).1 r hr
  have hcall : ∀ c ∈ i.toolCalls, IsLineIn t i.path (some c.line) := by
    rintro c hc n text ⟨⟩ htext
    exact (Markup.isLineNumber_parseFile hparse htext).2.1 c hc
  have hunclosed : IsLineIn t i.path i.parseErrorLine? := fun n text hn htext =>
    (Markup.isLineNumber_parseFile hparse htext).2.2 n hn
  refine only_append (only_append ?_ ?_) (only_all fun call hmem => ?_)
  · refine only_append ?_ (only_all fun name _ => only_when only_warning_one)
    split
    · exact only_error_pointsInto hproper hunclosed.getD_one
    · exact only_nothing
  · refine only_append (only_all fun r hr => only_when ?_) (only_all fun r hr => only_when ?_)
    · exact only_error_pointsInto hproper (hreference r (List.mem_of_mem_filter hr))
    · exact only_warning_pointsInto hproper (hreference r (List.mem_of_mem_filter hr))
  · unfold instructionCall
    split
    · exact only_when (only_warning_pointsInto hproper (hcall call hmem))
    · exact only_when (only_warning_pointsInto hproper (hcall call hmem))

omit ht in
theorem environmentFile_pointsInto :
    (environmentFile.findings t p settings).Only (Issue.PointsInto t cwd) := by
  simp only [environmentFile]
  split
  · exact only_nothing
  · exact only_error_one
  · rename_i path fields text henvironment
    have hpath := (hindexed.environment_isEntryOf henvironment).proper_isAbsolute hroot
    refine only_append ?_ (only_when (only_check fun _ => only_when only_warning_one))
    unfold environmentToolsets
    split
    · refine only_all fun entry _ => ?_
      unfold environmentEntry
      dsimp only
      split
      · split
        · exact only_nothing
        · split
          · exact only_nothing
          · exact only_nothing
          · exact only_errorAt_pointsInto hpath
        · exact only_errorAt_pointsInto hpath
      · exact only_errorAt_pointsInto hpath
    · exact only_errorAt_pointsInto hpath
  · exact only_error_one

end Entities

end Rule

namespace Audit

open Rule

variable {t : FileTree} {cwd : Path} {p : Package} {settings : AuditSettings}

/-- The issues of every rule point into their files. -/
theorem pointsInto_of_mem_battery (hindexed : p.Indexed t) (ht : t.WellFormed)
    (hroot : p.root.Proper ∧ p.root.isAbsolute = true) {rule : Rule} (hrule : rule ∈ battery) :
    (rule.findings t p settings).Only (Issue.PointsInto t cwd) := by
  simp only [battery, List.mem_cons, List.not_mem_nil, or_false] at hrule
  rcases hrule with rfl | rfl | rfl | rfl | rfl | rfl | rfl | rfl | rfl | rfl | rfl
  · exact rootManifest_pointsInto hroot
  · exact rootAgent_pointsInto hroot
  · exact globalInstruction_pointsInto hroot
  · exact guardrailReferences_pointsInto hroot
  · exact unsupportedDirectories_pointsInto hroot
  · exact nestingDepth_pointsInto
  · exact agents_pointsInto hindexed ht hroot
  · exact toolsets_pointsInto hindexed ht hroot
  · exact evaluations_pointsInto hindexed ht hroot
  · exact instructions_pointsInto hindexed ht hroot
  · exact environmentFile_pointsInto hindexed hroot

/-- The issues of a full audit point into their files, those about failures included. -/
theorem pointsInto_runAll (hindexed : p.Indexed t) (ht : t.WellFormed)
    (hroot : p.root.Proper ∧ p.root.isAbsolute = true) :
    ∀ i ∈ (runAll t settings p).issues, i.PointsInto t cwd := by
  intro i hi
  rw [runAll, run_eq, (Issue.isStableSort_sort _).perm.mem_iff] at hi
  obtain ⟨rule, hrule, hi⟩ := List.mem_flatMap.mp hi
  rcases List.mem_append.mp hi with hi | hi
  · exact pointsInto_of_mem_battery hindexed ht hroot hrule i hi
  · obtain ⟨f, -, rfl⟩ := Option.map_eq_some_iff.mp (Option.mem_toList.mp hi)
    exact pointsInto_one

/-- In an audit of a tree that stays as it is, the line of each issue is one of its file, if the
file is a text. Where a line is looked for, it is the first one that holds the word, or one of the
words, and none is found in a text only if no line does. -/
theorem lines_point_into (ht : t.WellFormed) (hcwd : cwd.Proper) {path : Path}
    (hpath : path.Proper) (settings : AuditSettings) :
    (∀ i ∈ (indexAndRun t cwd settings path).2.issues, i.PointsInto t cwd) ∧
    (∀ file token found, Document.lineContaining t file token = .ok found →
      Document.FindsFirst t file [token] found) ∧
    ∀ file found, Document.lineOfVersionMarker t file = .ok found →
      Document.FindsFirst t file ["openapi", "swagger"] found := by
  refine ⟨?_, fun _ _ _ => Document.findsFirst_lineContaining,
    fun _ _ => Document.findsFirst_lineOfVersionMarker⟩
  unfold indexAndRun
  cases hp : Package.build t cwd path with
  | ok p =>
    obtain ⟨hindexed, hroot, -⟩ := Package.indexed_of_build hcwd hpath hp
    exact pointsInto_runAll hindexed ht hroot
  | error f =>
    -- a directory of which no model can be built gives one issue, about the first line
    intro i hi
    rw [List.mem_singleton.mp hi]
    exact pointsInto_one

section Lined

/-- A package whose root agent is missing, with an instruction that refers to an agent that does not
exist. -/
def lined : FileTree :=
  ⟨[(["p"], .directory),
    (["p", "app.json"], .file "\x7b\n\"rootAgent\": \"desk\"\n\x7d".toUTF8),
    (["p", "agents"], .directory), (["p", "agents", "back"], .directory),
    (["p", "agents", "back", "back.json"],
      .file "\x7b\"instruction\": \"agents/back/instruction.txt\"\x7d".toUTF8),
    (["p", "agents", "back", "instruction.txt"],
      .file "<role>\nBe kind.\nAsk \x7b@AGENT: desk\x7d.\n</role>".toUTF8)]⟩

/-- The root of the package. -/
def linedRoot : Path :=
  ⟨.root, ["p"]⟩

set_option maxRecDepth 10000 in
/-- The issues about them point to the second line of the manifest and to the third line of the
instruction. -/
theorem lines_point_into_lined :
    (indexAndRun lined linedRoot {} linedRoot).2.issues.map (fun i => (i.code, i.file, i.line)) =
      [("CES_INSTRUCTION_AGENT_REF_UNKNOWN", "/p/agents/back/instruction.txt", some 3),
        ("CES_APP_JSON_ONLY", "/p/app.json", some 1),
        ("CES_ROOT_AGENT_DIR_MISSING", "/p/app.json", some 2)] ∧
    (∀ i ∈ (indexAndRun lined linedRoot {} linedRoot).2.issues, i.PointsInto lined linedRoot) ∧
    Document.FindsFirst lined ⟨.root, ["p", "app.json"]⟩ ["rootAgent"] (some 2) := by
  have ht : lined.WellFormed := by decide +kernel
  have hroot : linedRoot.Proper := by decide
  obtain ⟨hpoint, hfind, -⟩ := lines_point_into ht hroot hroot {}
  exact ⟨by decide +kernel, hpoint, hfind _ _ _ (by decide +kernel)⟩

end Lined

end Audit

end AgentPackage
