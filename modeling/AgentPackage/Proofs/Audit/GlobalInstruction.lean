import AgentPackage.Audit.Rules.GlobalInstruction
import AgentPackage.Package.Index
import AgentPackage.Proofs.Findings
import AgentPackage.Proofs.Package.Declared

/-!
# Texts and paths of global instructions

A global instruction is a text or the path of one. Which of them it is taken for is told by the
value as it is written, and what a path leads to by the value with slashes for backslashes. The two
ways of writing a path are therefore told apart in one case: a long value that divides its names by
backslashes alone is taken for a text, and no file is looked for.

## Main definitions

* `Declared.Backslashed`: the values that are taken for a text because of their backslashes;
* `Package.withGlobalInstruction`: a package whose manifest has another global instruction.

## Main results

* `Declared.isLikelyInline_withSlashes_iff`: with slashes, these values are taken for paths, and
  what any other value is taken for does not change;
* `Rule.globalInstruction_spelled`: how the spelling of a value bears on what is reported about it.
-/

namespace AgentPackage

namespace Declared

variable {v : String} {c : Char} {cs ds : List Char}

/-- The value is a long text in one line that does not end like a text file, and that is divided by
backslashes, but not by slashes. -/
def Backslashed (v : String) : Prop :=
  let cs := Text.trimChars v.toList
  '\\' ∈ cs ∧ '/' ∉ cs ∧ '\n' ∉ cs ∧ '\r' ∉ cs ∧ ¬ ".txt".toList <:+ cs ∧ inlineLength < cs.length

instance (v : String) : Decidable (Backslashed v) :=
  inferInstanceAs (Decidable (_ ∧ _ ∧ _ ∧ _ ∧ _ ∧ _))

/-- The value has one line, and a separator of either kind in it. -/
def IsDivided (v : String) : Prop :=
  let cs := Text.trimChars v.toList
  ('/' ∈ cs ∨ '\\' ∈ cs) ∧ '\n' ∉ cs ∧ '\r' ∉ cs

/-- A value is taken for a text if it has several lines, or if it is long, does not end like a text
file and holds no slash. -/
theorem isLikelyInline_iff :
    isLikelyInline v = true ↔
      let cs := Text.trimChars v.toList
      ('\n' ∈ cs ∨ '\r' ∈ cs) ∨ ¬ ".txt".toList <:+ cs ∧ '/' ∉ cs ∧ inlineLength < cs.length := by
  unfold isLikelyInline
  generalize Text.trimChars v.toList = cs
  cases cs with
  | nil => simp
  | cons c cs =>
    dsimp only
    rw [List.isEmpty_cons, if_neg Bool.false_ne_true]
    by_cases hline : '\n' ∈ c :: cs ∨ '\r' ∈ c :: cs
    · rw [if_pos (by simpa using hline)]
      exact iff_of_true rfl (.inl hline)
    · rw [if_neg (by simpa using hline), or_iff_right hline]
      by_cases hpath : ".txt".toList <:+ c :: cs ∨ '/' ∈ c :: cs
      · rw [if_pos (by simpa using hpath)]
        exact iff_of_false Bool.false_ne_true fun h => hpath.elim h.1 h.2.1
      · rw [if_neg (by simpa using hpath), decide_eq_true_iff]
        rw [not_or] at hpath
        exact ⟨fun h => ⟨hpath.1, hpath.2, h⟩, fun h => h.2.2⟩

/-- Where slashes are written, there were slashes or backslashes. -/
theorem slash_mem_map_written : '/' ∈ cs.map written ↔ '/' ∈ cs ∨ '\\' ∈ cs := by
  rw [List.mem_map]
  constructor
  · rintro ⟨c, hc, hwritten⟩
    by_cases hback : c = '\\'
    · exact .inr (hback ▸ hc)
    · have hkept : written c = c := by simp [written, hback]
      exact .inl ((hkept.symm.trans hwritten) ▸ hc)
  · rintro (h | h)
    · exact ⟨'/', h, rfl⟩
    · exact ⟨'\\', h, rfl⟩

/-- Texts without separators are written as they are, and no other texts are written like them. -/
theorem map_written_eq_iff (hslash : '/' ∉ ds) (hback : '\\' ∉ ds) :
    cs.map written = ds ↔ cs = ds := by
  constructor
  · intro h
    have hcs : '\\' ∉ cs := fun hmem => hslash (h ▸ slash_mem_map_written.mpr (.inr hmem))
    rwa [map_written_of_notMem hcs] at h
  · rintro rfl
    exact map_written_of_notMem hback

/-- A character that is no separator is written where it was. -/
theorem mem_map_written (hslash : c ≠ '/') (hback : c ≠ '\\') : c ∈ cs.map written ↔ c ∈ cs := by
  have hone : ∀ d, written d = c ↔ d = c := by
    intro d
    have h := @map_written_eq_iff [d] [c] (by simpa using hslash.symm) (by simpa using hback.symm)
    simpa using h
  simp [hone]

/-- An ending without separators is written where it was. -/
theorem suffix_map_written (hslash : '/' ∉ ds) (hback : '\\' ∉ ds) :
    ds <:+ cs.map written ↔ ds <:+ cs := by
  rw [List.suffix_map_iff]
  constructor
  · rintro ⟨es, hsuffix, hes⟩
    rwa [← (map_written_eq_iff hslash hback).mp hes.symm]
  · exact fun h => ⟨ds, h, ((map_written_eq_iff hslash hback).mpr rfl).symm⟩

/-- With slashes, a value is taken for a text if it was and is not one that is taken for it because
of its backslashes. -/
theorem isLikelyInline_withSlashes_iff :
    isLikelyInline (withSlashes v) = true ↔ isLikelyInline v = true ∧ ¬ Backslashed v := by
  rw [isLikelyInline_iff, isLikelyInline_iff, toList_withSlashes,
    Text.trimChars_map isBlank_written, Backslashed]
  generalize Text.trimChars v.toList = cs
  dsimp only
  rw [mem_map_written (by decide) (by decide), mem_map_written (by decide) (by decide),
    suffix_map_written (by decide) (by decide), slash_mem_map_written, List.length_map]
  tauto

/-- The values that are taken for a text because of their backslashes are taken for one, and are not
blank. -/
theorem inline_of_backslashed (h : Backslashed v) :
    isLikelyInline v = true ∧ Text.isAllBlank v = false := by
  obtain ⟨hback, hslash, -, -, hending, hlong⟩ := h
  refine ⟨isLikelyInline_iff.mpr (.inr ⟨hending, hslash, hlong⟩), ?_⟩
  -- the backslash is none of the blanks that trimming removes
  have hmem : '\\' ∈ v.toList := by
    rw [Text.trimChars_eq] at hback
    exact (List.dropWhile_suffix _).subset ((List.rdropWhile_prefix _ _).subset hback)
  rw [Text.isAllBlank, List.all_eq_false]
  exact ⟨'\\', hmem, by decide⟩

/-- A value in one line with a separator is taken for a path, unless it is one that is taken for a
text because of its backslashes. -/
theorem isLikelyInline_iff_backslashed (h : IsDivided v) :
    isLikelyInline v = true ↔ Backslashed v := by
  rw [isLikelyInline_iff, Backslashed]
  unfold IsDivided at h
  dsimp only at h ⊢
  tauto

end Declared

/-- The package with another global instruction in its manifest. -/
def Package.withGlobalInstruction (p : Package) (m : AppManifest) (value : String) : Package :=
  { p with manifest := some { m with globalInstruction := some value } }

namespace Rule

open Declared

variable {t : FileTree} {p : Package} {m : AppManifest} {v : String} {settings : AuditSettings}

/-- The file that the rule looks for is reported as missing. -/
def ReportsNoFile (t : FileTree) (p : Package) (settings : AuditSettings) : Prop :=
  ∃ i ∈ (globalInstruction.findings t p settings).issues, i.code = "CES_GLOBAL_INSTRUCTION_MISSING"

/-- What is reported about a value that is taken for a text, or is blank: nothing. About any other
value it is reported that there is nothing where its path leads to. -/
theorem globalInstruction_findings :
    globalInstruction.findings t (p.withGlobalInstruction m v) settings =
      match p.manifestPath? with
      | none => .nothing
      | some path =>
        if Text.isAllBlank v || isLikelyInline v then .nothing
        else
          Findings.check (p.pathExists t (resolve p.root v)) fun pathExists =>
            Findings.when (!pathExists) <|
              Findings.errorAt t "CES_GLOBAL_INSTRUCTION_MISSING"
                ("globalInstruction path does not exist: " ++ withSlashes (Text.trim v)) path
                "globalInstruction" := by
  have hpath : (p.withGlobalInstruction m v).manifestPath? = p.manifestPath? := rfl
  have hmanifest : (p.withGlobalInstruction m v).manifest =
    some { m with globalInstruction := some v } := rfl
  rw [← resolve_withSlashes_trim, globalInstruction]
  dsimp only
  rw [hpath, hmanifest]
  cases p.manifestPath? with
  | none => rfl
  | some path => rfl

/-- A file is reported as missing if the value is taken for its path and leads to nothing, and if
the line of the value can be looked for. -/
theorem reportsNoFile_iff :
    ReportsNoFile t (p.withGlobalInstruction m v) settings ↔
      ∃ path line, p.manifestPath? = some path ∧ Text.isAllBlank v = false ∧
        isLikelyInline v = false ∧ p.pathExists t (resolve p.root v) = .ok false ∧
        Document.lineContaining t path "globalInstruction" = .ok line := by
  rw [ReportsNoFile, globalInstruction_findings]
  cases p.manifestPath? with
  | none => simp [Findings.nothing]
  | some path =>
    dsimp only
    by_cases htext : (Text.isAllBlank v || isLikelyInline v) = true
    · rw [if_pos htext]
      refine iff_of_false (by simp [Findings.nothing]) ?_
      rintro ⟨path, line, -, hblank, hinline, -⟩
      rw [hblank, hinline] at htext
      exact Bool.false_ne_true htext
    · rw [if_neg htext]
      rw [Bool.not_eq_true, Bool.or_eq_false_iff] at htext
      simp [htext, Findings.mem_issues_check, Findings.mem_issues_when, Findings.mem_issues_errorAt]

/-- With slashes, a value is taken for a path if it is one of those that are taken for a text
because of their backslashes, and otherwise for what it was taken for. About the former nothing is
reported, whether there is a file or not; about any other value the same is reported with
slashes. -/
theorem globalInstruction_spelled (t : FileTree) (p : Package) (m : AppManifest) (v : String)
    (settings : AuditSettings) :
    (isLikelyInline (withSlashes v) = isLikelyInline v ↔ ¬ Backslashed v) ∧
    (IsDivided v → isLikelyInline (withSlashes v) = false ∧
      (isLikelyInline v = true ↔ Backslashed v)) ∧
    (¬ Backslashed v →
      globalInstruction.findings t (p.withGlobalInstruction m (withSlashes v)) settings =
        globalInstruction.findings t (p.withGlobalInstruction m v) settings) ∧
    (Backslashed v →
      globalInstruction.findings t (p.withGlobalInstruction m v) settings = .nothing ∧
      (ReportsNoFile t (p.withGlobalInstruction m (withSlashes v)) settings ↔
        ∃ path line, p.manifestPath? = some path ∧ p.pathExists t (resolve p.root v) = .ok false ∧
          Document.lineContaining t path "globalInstruction" = .ok line)) := by
  have hsame : isLikelyInline (withSlashes v) = isLikelyInline v ↔ ¬ Backslashed v := by
    rw [Bool.eq_iff_iff, isLikelyInline_withSlashes_iff]
    exact ⟨fun h hback => (h.mpr (inline_of_backslashed hback).1).2 hback,
      fun h => and_iff_left h⟩
  refine ⟨hsame, fun hdivided => ⟨?_, isLikelyInline_iff_backslashed hdivided⟩, fun hback => ?_,
    fun hback => ?_⟩
  · rw [← Bool.not_eq_true, isLikelyInline_withSlashes_iff, isLikelyInline_iff_backslashed hdivided]
    exact and_not_self
  · rw [globalInstruction_findings, globalInstruction_findings, hsame.mpr hback,
      isAllBlank_withSlashes, resolve_withSlashes, trim_withSlashes, withSlashes_withSlashes]
  · obtain ⟨hinline, hblank⟩ := inline_of_backslashed hback
    have hpath : isLikelyInline (withSlashes v) = false := by
      rw [← Bool.not_eq_true, isLikelyInline_withSlashes_iff, not_and_not_right]
      exact fun _ => hback
    constructor
    · rw [globalInstruction_findings, hinline, Bool.or_true]
      cases p.manifestPath? <;> rfl
    · rw [reportsNoFile_iff, isAllBlank_withSlashes, resolve_withSlashes, hpath]
      simp [hblank]

section Instructed

/-- A package whose global instruction is declared with a backslash, and is not there. -/
def instructed : FileTree :=
  ⟨[(["p"], .directory),
    (["p", "app.json"], .file
      "\x7b\"globalInstruction\":\"instructions\\\\global_instruction\"\x7d".toUTF8)]⟩

/-- The root of the package. -/
def instructedRoot : Path :=
  ⟨.root, ["p"]⟩

set_option maxRecDepth 10000 in
/-- Nothing is reported about a file that is missing, although it is reported with a slash. -/
theorem globalInstruction_spelled_instructed :
    ∃ p m, Package.build instructed instructedRoot instructedRoot = .ok p ∧ p.manifest = some m ∧
      m.globalInstruction = some "instructions\\global_instruction" ∧
      p.withGlobalInstruction m "instructions\\global_instruction" = p ∧
      globalInstruction.findings instructed p {} = .nothing ∧
      ReportsNoFile instructed
        (p.withGlobalInstruction m "instructions/global_instruction") {} := by
  obtain ⟨p, hp, hvalue, hreported⟩ : ∃ p,
      Package.build instructed instructedRoot instructedRoot = .ok p ∧
        p.manifest.bind AppManifest.globalInstruction = some "instructions\\global_instruction" ∧
        p.manifestPath? = some ⟨.root, ["p", "app.json"]⟩ ∧
        p.pathExists instructed (resolve p.root "instructions\\global_instruction") =
          .ok false := by
    decide +kernel
  obtain ⟨m, hm, hvalue⟩ := Option.bind_eq_some_iff.mp hvalue
  have hself : p.withGlobalInstruction m "instructions\\global_instruction" = p := by
    rw [Package.withGlobalInstruction, ← hvalue, ← hm]
  have hspelled :=
    (globalInstruction_spelled instructed p m "instructions\\global_instruction" {}).2.2.2
      (by decide +kernel)
  have hslash :
      withSlashes "instructions\\global_instruction" = "instructions/global_instruction" := by
    decide +kernel
  have hline : Document.lineContaining instructed ⟨.root, ["p", "app.json"]⟩ "globalInstruction" =
      .ok (some 1) := by
    decide +kernel
  rw [hself, hslash] at hspelled
  exact ⟨p, m, hp, hm, hvalue, hself, hspelled.1,
    hspelled.2.mpr ⟨_, _, hreported.1, hreported.2, hline⟩⟩

end Instructed

end Rule

end AgentPackage
