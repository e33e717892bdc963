import AgentPackage.Audit.Rules.NestingDepth
import AgentPackage.Proofs.Findings
import AgentPackage.Proofs.Package.Declared
import AgentPackage.Proofs.Package.Scans

/-!
# Depth of files

A file in a known folder of a package lies too deep if more names follow that of the folder than
the settings allow. The rule counts names after it has written the path with slashes, so that a name
that holds a backslash is counted as the parts that it is taken apart into; other names are counted
as one.

## Main definitions

* `Package.ListsBelow`: the files of a package lie below its root;
* `Path.partsBelow`: what the names of a file below the root are taken apart into;
* `Rule.TooDeep`: a row of names has too many behind the first one.

## Main results

* `Package.listsBelow_of_build`: a package that was built lists files below its root;
* `Rule.fileDepth_cases`: what is reported about one file;
* `Rule.nestingDepth_warns`: there is one warning about each file that lies too deep.
-/

namespace AgentPackage

open Findings Index FileTree

/-- The names of a file below a root. -/
def Path.namesBelow (root file : Path) : List String :=
  file.names.drop root.names.length

/-- What the names of a file below a root are taken apart into. -/
def Path.partsBelow (root file : Path) : List String :=
  (root.namesBelow file).flatMap Declared.parts

namespace Path

variable {root file : Path} {names : List String}

@[simp]
theorem namesBelow_below : root.namesBelow (below root names) = names := by
  simp [namesBelow, below]

/-- Names that hold no backslash are not taken apart. -/
theorem partsBelow_eq (hname : ∀ n ∈ root.namesBelow file, n ≠ "" ∧ '\\' ∉ n.toList) :
    root.partsBelow file = root.namesBelow file := by
  have hparts : (root.namesBelow file).flatMap Declared.parts =
      (root.namesBelow file).flatMap fun n => [n] :=
    List.flatMap_congr fun n hn => Declared.parts_of_notMem (hname n hn).1 (hname n hn).2
  rw [partsBelow, hparts, List.flatMap_singleton']

end Path

/-- The files of the package lie below its root, and their names could be those of files. -/
structure Package.ListsBelow (p : Package) : Prop where
  /-- There is no `..` on the way to the root. -/
  root : ".." ∉ p.root.names
  /-- A file is made of names below the root. -/
  files : ∀ file ∈ p.files, ∃ names, names ≠ [] ∧ (∀ n ∈ names, Path.IsName n) ∧ ".." ∉ names ∧
    file = below p.root names

/-- A package that was built lists files below its root. -/
theorem Package.listsBelow_of_build {t₀ : FileTree} (ht : t₀.WellFormed) {cwd path : Path}
    (hcwd : cwd.Proper) (hpath : path.Proper) {p : Package}
    (hp : Package.build t₀ cwd path = .ok p) : p.ListsBelow := by
  obtain ⟨hindexed, ⟨hroot, -⟩, hup⟩ := Package.indexed_of_build hcwd hpath hp
  refine ⟨hup, fun file hfile => ?_⟩
  obtain ⟨names, name, hnames, -, heq, -⟩ :=
    ((isListing_of_eq_ok ht hroot hindexed.listing).mem_files file).mp hfile
  exact ⟨names ++ [name], by simp, fun n hn => (hnames n hn).1, fun hup => (hnames _ hup).2.1 rfl,
    heq⟩

namespace Rule

variable {settings : AuditSettings} {p : Package} {parts : List String} {code : String}

/-- More names follow that of a known folder than the settings allow there; the code is the one for
the folder. -/
inductive TooDeep (settings : AuditSettings) : List String → String → Prop where
  /-- The folder is that of agents, of tools or of examples. -/
  | root {folder : String} {rest : List String} (hfolder : folder ∈ ["agents", "tools", "examples"])
      (hdeep : settings.rootDepthLimit < rest.length) :
      TooDeep settings (folder :: rest) "CES_NESTING_DEPTH_EXCEEDED"
  /-- The folder is that of toolsets. -/
  | toolset {rest : List String} (hdeep : settings.toolsetDepthLimit < rest.length) :
      TooDeep settings ("toolsets" :: rest) "CES_TOOLSET_NESTING_DEPTH_EXCEEDED"
  /-- The folder is that of guardrails. -/
  | guardrail {rest : List String} (hdeep : settings.guardrailDepthLimit < rest.length) :
      TooDeep settings ("guardrails" :: rest) "CES_GUARDRAIL_NESTING_DEPTH_EXCEEDED"

/-- Names lie too deep exactly if there are more than the limit for their folder. -/
theorem tooDeep_cons_iff {folder : String} {rest : List String} :
    TooDeep settings (folder :: rest) code ↔
      ∃ limit, depthRule? settings folder = some (code, limit) ∧ limit < rest.length := by
  constructor
  · intro h
    cases h with
    | root hfolder hdeep =>
      refine ⟨_, ?_, hdeep⟩
      simp only [List.mem_cons, List.not_mem_nil, or_false] at hfolder
      rcases hfolder with rfl | rfl | rfl <;> rfl
    | toolset hdeep => exact ⟨_, rfl, hdeep⟩
    | guardrail hdeep => exact ⟨_, rfl, hdeep⟩
  · rintro ⟨limit, hrule, hdeep⟩
    unfold depthRule? at hrule
    -- along the tests for the folders, in their order
    split at hrule
    · rename_i hfolder
      cases hrule
      exact .root (by simpa [or_assoc] using hfolder) hdeep
    · split at hrule
      · rename_i hfolder
        cases hrule
        rw [beq_iff_eq.mp hfolder]
        exact .toolset hdeep
      · split at hrule
        · rename_i hfolder
          cases hrule
          rw [beq_iff_eq.mp hfolder]
          exact .guardrail hdeep
        · cases hrule

/-- It can be computed whether names lie too deep. -/
instance (settings : AuditSettings) (parts : List String) :
    Decidable (∃ code, TooDeep settings parts code) :=
  match parts with
  | [] => isFalse fun ⟨_, h⟩ => nomatch h
  | folder :: rest =>
    match hrule : depthRule? settings folder with
    | none => isFalse fun ⟨_, h⟩ => by
        obtain ⟨_, hsome, -⟩ := tooDeep_cons_iff.mp h
        cases hrule.symm.trans hsome
    | some (code, limit) =>
      if hdeep : limit < rest.length then isTrue ⟨code, tooDeep_cons_iff.mpr ⟨limit, hrule, hdeep⟩⟩
      else isFalse fun ⟨_, h⟩ => by
        obtain ⟨limit', hsome, hdeep'⟩ := tooDeep_cons_iff.mp h
        cases hrule.symm.trans hsome
        exact hdeep hdeep'

/-- The issue warns that the file lies too deep, with the code for its folder. -/
def WarnsOf (settings : AuditSettings) (root file : Path) (i : Issue) : Prop :=
  i.file = file.text ∧ i.severity = .warning ∧ TooDeep settings (root.partsBelow file) i.code

/-- The warning about a file that lies too deep. -/
def depthIssue (folder code : String) (depth : Nat) (limit : Int) (file : Path) : Issue :=
  { code, severity := .warning, file := file.text, line := some 1
    message := folder ++ "/ contains file nested " ++ toString depth ++
      " levels deep; expected max " ++ toString limit }

/-- What is reported about a file below the root: a warning if it lies too deep, else nothing. -/
theorem fileDepth_cases (hroot : ".." ∉ p.root.names) {names : List String} (hne : names ≠ [])
    (hname : ∀ n ∈ names, Path.IsName n) (hup : ".." ∉ names) {file : Path}
    (hfile : file = below p.root names) :
    ((∃ code, TooDeep settings (p.root.partsBelow file) code) ∧
      ∃ i, WarnsOf settings p.root file i ∧ fileDepth settings p file = one i) ∨
    ((¬ ∃ code, TooDeep settings (p.root.partsBelow file) code) ∧
      fileDepth settings p file = nothing) := by
  -- what is counted are the parts of the names
  have hsegments : Declared.segments (Declared.relative p.root file) = p.root.partsBelow file := by
    rw [hfile, Declared.segments_relative hroot hname hup hne, Path.partsBelow,
      Path.namesBelow_below]
  unfold fileDepth WarnsOf
  dsimp only
  rw [Declared.topLevel?, Declared.depth, hsegments]
  cases hparts : p.root.partsBelow file with
  | nil => exact .inr ⟨fun ⟨_, h⟩ => (nomatch h), rfl⟩
  | cons folder rest =>
    simp only [List.head?_cons, List.length_cons, Nat.add_sub_cancel, tooDeep_cons_iff]
    cases hrule : depthRule? settings folder with
    | none => exact .inr ⟨by simp, rfl⟩
    | some x =>
      obtain ⟨code, limit⟩ := x
      by_cases hdeep : limit < (rest.length : ℤ)
      · refine .inl ⟨⟨code, limit, rfl, hdeep⟩, depthIssue folder code rest.length limit file,
          ⟨rfl, rfl, limit, rfl, hdeep⟩, ?_⟩
        simp only [when, hdeep, decide_true, if_true]
        rfl
      · refine .inr ⟨?_, ?_⟩
        · rintro ⟨_, _, hsome, hdeep'⟩
          cases hsome
          exact hdeep hdeep'
        · simp only [when, hdeep, decide_false, Bool.false_eq_true, if_false]

/-- There is one warning about each file that lies too deep, in their order, with the code for its
folder, and nothing else is reported. The depth of a file is the number of parts that its names are
taken apart into, which are its names themselves if these hold no backslash. -/
theorem nestingDepth_warns (h : p.ListsBelow) (t : FileTree) (settings : AuditSettings) :
    (nestingDepth.findings t p settings).failure = none ∧
      List.Forall₂ (WarnsOf settings p.root)
        (p.files.filter fun file => ∃ code, TooDeep settings (p.root.partsBelow file) code)
        (nestingDepth.findings t p settings).issues ∧
      ∀ file ∈ p.files, (∀ n ∈ p.root.namesBelow file, '\\' ∉ n.toList) →
        p.root.partsBelow file = p.root.namesBelow file := by
  obtain ⟨hfailure, hissues⟩ := forall₂_issues_all (f := fileDepth settings p)
    (P := fun file => ∃ code, TooDeep settings (p.root.partsBelow file) code)
    (R := WarnsOf settings p.root) fun file hfile => by
      obtain ⟨names, hne, hname, hup, heq⟩ := h.files file hfile
      exact fileDepth_cases h.root hne hname hup heq
  refine ⟨hfailure, hissues, fun file hfile hplain => Path.partsBelow_eq fun n hn => ?_⟩
  obtain ⟨names, -, hname, -, rfl⟩ := h.files file hfile
  rw [Path.namesBelow_below] at hn
  exact ⟨(hname n hn).1, hplain n (Path.namesBelow_below ▸ hn)⟩

section Shelves

/-- A package with a file at the limit in the folder of examples, one behind the limit, one whose
name holds a backslash, and one at the limit in the folder of toolsets. -/
def shelves : FileTree :=
  ⟨[(["p"], .directory), (["p", "examples"], .directory), (["p", "examples", "a"], .directory),
    (["p", "examples", "a", "b.txt"], .file ⟨#[]⟩),
    (["p", "examples", "a", "b\\c.txt"], .file ⟨#[]⟩),
    (["p", "examples", "a", "d"], .directory),
    (["p", "examples", "a", "d", "e.txt"], .file ⟨#[]⟩),
    (["p", "toolsets"], .directory), (["p", "toolsets", "a"], .directory),
    (["p", "toolsets", "a", "b"], .directory),
    (["p", "toolsets", "a", "b", "c.txt"], .file ⟨#[]⟩)]⟩

/-- The root of the package. -/
def shelvesRoot : Path :=
  ⟨.root, ["p"]⟩

set_option maxRecDepth 10000 in
/-- In the package there are warnings about the file behind the limit and the one with the
backslash. -/
theorem nestingDepth_warns_shelves :
    ∃ p, Package.build shelves shelvesRoot shelvesRoot = .ok p ∧ p.ListsBelow ∧
      (nestingDepth.findings shelves p {}).issues.map Issue.file =
        ["/p/examples/a/b\\c.txt", "/p/examples/a/d/e.txt"] ∧
      List.Forall₂ (WarnsOf {} p.root)
        (p.files.filter fun file => ∃ code, TooDeep {} (p.root.partsBelow file) code)
        (nestingDepth.findings shelves p {}).issues := by
  have ht : shelves.WellFormed := by decide +kernel
  have hroot : shelvesRoot.Proper := by decide
  obtain ⟨p, hp, hissues⟩ : ∃ p, Package.build shelves shelvesRoot shelvesRoot = .ok p ∧
      (nestingDepth.findings shelves p {}).issues.map Issue.file =
        ["/p/examples/a/b\\c.txt", "/p/examples/a/d/e.txt"] := by
    decide +kernel
  have hbelow := Package.listsBelow_of_build ht hroot hroot hp
  exact ⟨p, hp, hbelow, hissues, (nestingDepth_warns hbelow shelves {}).2.1⟩

set_option maxRecDepth 10000 in
/-- A file at the limit is warned about if its name holds a backslash. -/
theorem nestingDepth_backslash :
    ∃ p, Package.build shelves shelvesRoot shelvesRoot = .ok p ∧
      ∃ file ∈ p.files, p.root.namesBelow file = ["examples", "a", "b\\c.txt"] ∧
        (fileDepth {} p file).issues.map Issue.message =
          ["examples/ contains file nested 3 levels deep; expected max 2"] := by
  decide +kernel

end Shelves

end Rule

end AgentPackage
