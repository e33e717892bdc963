import AgentPackage.CommandLine.Run
import AgentPackage.Proofs.Audit.RuleOrder
import AgentPackage.Proofs.Document.Plain
import AgentPackage.Proofs.Terminal.Markup

/-!
# How an audit ends

The command that audits a package ends with the exit code of the report. In JSON it does so for
every package. The other layouts print the texts of a package as they are, which takes that these
are made of characters. Then it does so in Markdown too. The lines for people hold the places of
issues as markup: there it does so if no place has a fault, as none has without brackets, and else
ends with a fault of the markup.

## Main results

* `Output.ending_append`, `Output.ending_all`: how outputs end that are put together;
* `fault?_styled`, `fault?_verdict`: plain text in the styles of the lines has no fault;
* `fault?_issueLine`: the fault of the line of an issue is that of its place;
* `ending_reportLines`: how the lines of a report end;
* `ending_validate`: how the command ends in each layout.
-/

namespace AgentPackage.CommandLine

open Terminal (MarkupPart Style)
open Terminal.Markup (IsStyleName fault? fault?_eq_of_tags fault?_of_isClosed fault?_of_notMem)

namespace Output

variable {a b : Output}

theorem ending_append : (a ++ b).ending = a.ending.or b.ending := by
  change (append a b).ending = _
  unfold append
  cases h : a.ending with
  | none => rfl
  | some e => exact h

/-- One output for each of some values ends as the first of them that ends. -/
theorem ending_all {α : Type} {xs : List α} {f : α → Output} {g : α → Option Ending}
    (h : ∀ x ∈ xs, (f x).ending = g x) : (all xs f).ending = xs.findSome? g := by
  induction xs with
  | nil => rfl
  | cons x xs ih =>
    obtain ⟨hx, hxs⟩ := List.forall_mem_cons.mp h
    change (f x ++ all xs f).ending = _
    rw [ending_append, ih hxs, hx, List.findSome?_cons]
    cases g x <;> rfl

theorem ending_when {condition : Bool} :
    (when condition a).ending = if condition then a.ending else none := by
  cases condition <;> rfl

theorem ending_broken (width : ℕ) (s : String) : (broken width s).ending = none := rfl

theorem ending_blankLine : blankLine.ending = none := rfl

/-- A text with markup ends the command with its fault, if it has one. -/
theorem ending_marked (width : ℕ) (s : String) :
    (marked width s).ending = (fault? s).map .badMarkup := by
  unfold marked fault? Terminal.Markup.State.fault? Terminal.Markup.styled
    Terminal.Markup.styledParts
  cases (MarkupPart.ofText [] s.toList).foldlM Terminal.Markup.State.step {} with
  | error f => rfl
  | ok state =>
    dsimp only [bind, Except.bind, pure, Except.pure]
    cases Terminal.Markup.checkStyles state.finish <;> rfl

end Output

section Lines

variable {width : ℕ} {dir : Path}

/-- The text of a number is plain. -/
theorem isPlain_toString (n : ℕ) : MarkupPart.IsPlain (toString n).toList := by
  intro c hc
  rw [Nat.toString_eq_repr, Nat.toList_repr] at hc
  have hdigit := Nat.isDigit_of_mem_toDigits (by decide) (by decide) hc
  constructor <;>
  · rintro rfl
    cases hdigit

/-- The styles that lines are written in. -/
theorem isStyleName (word : String) (hword : word ∈ ["red", "yellow", "green", "bold", "dim"]) :
    IsStyleName word.toList := by
  have hwords : ∀ word ∈ ["red", "yellow", "green", "bold", "dim"],
      MarkupPart.IsTagName word.toList ∧
      (word.toList.all fun c => c != '/' && c != '@' && c != '=' && !Text.isBlank c) = true ∧
      Style.name word = .ok word := by
    decide +kernel
  obtain ⟨htag, hplain, hnamed⟩ := hwords word hword
  refine ⟨htag, fun c hc => ?_, by rw [String.ofList_toList, hnamed]⟩
  simpa [and_assoc] using List.all_eq_true.mp hplain c hc

/-- Plain text in a style has no fault. -/
theorem fault?_styled {s : String} {name : List Char} (plain : List Char) (hname : IsStyleName name)
    (hplain : MarkupPart.IsPlain plain)
    (hs : s.toList = '[' :: (name ++ ']' :: (plain ++ '[' :: (('/' :: name) ++ ']' :: [])))) :
    fault? s = none := by
  refine fault?_of_isClosed (.nest hname .nil) ?_
  rw [hs, MarkupPart.tags_tag hname.isTagName, MarkupPart.tags_append hplain,
    MarkupPart.tags_tag hname.isTagName_closing, MarkupPart.tags_nil]
  rfl

/-- The fault of the line of an issue is that of its place. -/
theorem fault?_issueLine {colour word code place : String} (hcolour : IsStyleName colour.toList)
    (hword : MarkupPart.IsPlain word.toList) (hcode : MarkupPart.IsLabel code.toList) :
    fault? ("  [" ++ colour ++ "]" ++ word ++ "[/" ++ colour ++ "]  [dim]\\[" ++ code ++
      "][/dim] " ++ place) = fault? place := by
  have hdim : IsStyleName "dim".toList := isStyleName _ (by simp)
  refine fault?_eq_of_tags (.append (.nest hcolour .nil) (.nest hdim .nil)) ?_
  have hline : ("  [" ++ colour ++ "]" ++ word ++ "[/" ++ colour ++ "]  [dim]\\[" ++ code ++
      "][/dim] " ++ place).toList =
      ' ' :: ' ' :: '[' :: (colour.toList ++ ']' :: (word.toList ++ '[' ::
        (('/' :: colour.toList) ++ ']' :: ' ' :: ' ' :: '[' :: ("dim".toList ++ ']' ::
          '\\' :: '[' :: (code.toList ++ ']' :: '[' :: (('/' :: "dim".toList) ++ ']' :: ' ' ::
            place.toList)))))) := by
    simp
  rw [hline, MarkupPart.tags_cons rfl, MarkupPart.tags_cons rfl,
    MarkupPart.tags_tag hcolour.isTagName, MarkupPart.tags_append hword,
    MarkupPart.tags_tag hcolour.isTagName_closing, MarkupPart.tags_cons rfl,
    MarkupPart.tags_cons rfl, MarkupPart.tags_tag hdim.isTagName, MarkupPart.tags_label hcode,
    MarkupPart.tags_cons rfl, MarkupPart.tags_tag hdim.isTagName_closing, MarkupPart.tags_cons rfl]
  rfl

/-- The heading of a group of issues has no fault. -/
theorem fault?_groupHeading {title : String} (htitle : MarkupPart.IsPlain title.toList) (n : ℕ) :
    fault? ("[bold]" ++ title ++ " (" ++ toString n ++ ")[/bold]") = none := by
  have hplain : MarkupPart.IsPlain (title.toList ++ (" (".toList ++ ((toString n).toList ++
      ")".toList))) := by
    simp only [MarkupPart.isPlain_append, isPlain_toString, htitle, true_and]
    decide
  exact fault?_styled _ (isStyleName "bold" (by simp)) hplain (by simp)

/-- A word in bold and in colour in front of plain text has no fault. -/
theorem fault?_verdict {s colour : String} (word rest : String)
    (hcolour : IsStyleName colour.toList)
    (hword : MarkupPart.IsPlain word.toList) (hrest : MarkupPart.IsPlain rest.toList)
    (hs : s.toList = '[' :: (colour.toList ++ ']' :: '[' :: ("bold".toList ++ ']' ::
      (word.toList ++ '[' :: (('/' :: "bold".toList) ++ ']' :: '[' ::
        (('/' :: colour.toList) ++ ']' :: rest.toList)))))) : fault? s = none := by
  have hbold : IsStyleName "bold".toList := isStyleName _ (by simp)
  refine fault?_of_isClosed (.nest hcolour (.nest hbold .nil)) ?_
  rw [hs, MarkupPart.tags_tag hcolour.isTagName, MarkupPart.tags_tag hbold.isTagName,
    MarkupPart.tags_append hword, MarkupPart.tags_tag hbold.isTagName_closing,
    MarkupPart.tags_tag hcolour.isTagName_closing, MarkupPart.tags_of_isPlain hrest]
  rfl

/-- The verdict does not end the command. -/
theorem ending_verdict (r : Report) : (verdict width r).ending = none := by
  -- behind the word there are numbers and words alone
  have hplain : ∀ (n : ℕ) {behind : String}, MarkupPart.IsPlain behind.toList →
      MarkupPart.IsPlain (" " ++ toString n ++ behind).toList := by
    intro n behind hbehind
    simp only [String.toList_append, MarkupPart.isPlain_append, isPlain_toString, hbehind, and_true]
    decide
  have hred : IsStyleName "red".toList := isStyleName _ (by simp)
  have hgreen : IsStyleName "green".toList := isStyleName _ (by simp)
  unfold verdict
  dsimp only
  split
  · have hrest : MarkupPart.IsPlain (" " ++ toString r.errors.length ++
        (" error(s)," ++ (" " ++ toString r.warnings.length ++ " warning(s)"))).toList := by
      refine hplain _ ?_
      rw [String.toList_append, MarkupPart.isPlain_append]
      exact ⟨by decide, hplain _ (by decide)⟩
    rw [Output.ending_marked, fault?_verdict "FAILED:" _ hred (by decide) hrest (by simp)]
    rfl
  · split
    · have hrest : MarkupPart.IsPlain (" " ++ toString r.warnings.length ++
          " warning(s) in strict mode").toList := hplain _ (by decide)
      rw [Output.ending_marked, fault?_verdict "FAILED:" _ hred (by decide) hrest (by simp)]
      rfl
    · have hrest : MarkupPart.IsPlain (" with" ++ (" " ++ toString r.warnings.length ++
          " warning(s)")).toList := by
        rw [String.toList_append, MarkupPart.isPlain_append]
        exact ⟨by decide, hplain _ (by decide)⟩
      rw [Output.ending_marked, fault?_verdict "PASSED" _ hgreen (by decide) hrest
        (by simp)]
      rfl

/-- The heading of a report does not end the command. -/
theorem ending_heading (w : Place) : (w.heading dir).ending = none := by
  have hheading : fault? "[bold]=== CES Package Validator ===[/bold]" = none :=
    fault?_styled "=== CES Package Validator ===".toList (isStyleName "bold" (by simp)) (by decide)
      (by simp)
  unfold Place.heading
  rw [Output.ending_append, Output.ending_append, Output.ending_marked, hheading]
  rfl

/-- The summary of a package does not end the command. -/
theorem ending_inventorySummary (p : Package) : (inventorySummary width p).ending = none := by
  have hbold : IsStyleName "bold".toList := isStyleName _ (by simp)
  have htools : fault? "[bold]Tool Inventory[/bold]" = none :=
    fault?_styled "Tool Inventory".toList hbold (by decide) (by simp)
  have hevaluations : fault? "[bold]Evaluations[/bold]" = none :=
    fault?_styled "Evaluations".toList hbold (by decide) (by simp)
  have hplain : MarkupPart.IsPlain
      ("  " ++ toString p.evaluations.length ++ " evaluation(s) found").toList := by
    simp only [String.toList_append, MarkupPart.isPlain_append, isPlain_toString, and_true]
    decide
  have hcount := fault?_of_notMem fun hmem => (hplain _ hmem).1 rfl
  unfold inventorySummary
  simp only [Output.ending_append, Output.ending_when, Output.ending_marked, htools, hevaluations,
    hcount, Output.ending_broken, Output.ending_blankLine, Option.map_none, Option.or_none,
    ite_self]

/-- How the lines about an issue end the command, if its place has a fault. -/
def placeFault? (dir : Path) (i : Issue) : Option Ending :=
  (fault? (placeOf dir i)).map .badMarkup

variable {colour : String} {issues : List Issue}

/-- The lines about an issue end the command with the fault of its place. -/
theorem ending_issueLines (hcolour : IsStyleName colour.toList) {i : Issue}
    (hcode : MarkupPart.IsLabel i.code.toList) :
    (issueLines width dir colour i).ending = placeFault? dir i := by
  unfold issueLines placeFault?
  dsimp only
  rw [Output.ending_append, Output.ending_broken, Option.or_none, Output.ending_marked,
    fault?_issueLine hcolour ?_ hcode]
  cases i.severity <;> decide

/-- A group of issues ends the command with the first fault of a place. -/
theorem ending_issueGroup (hcolour : IsStyleName colour.toList) {title : String}
    (htitle : MarkupPart.IsPlain title.toList)
    (hcodes : ∀ i ∈ issues, MarkupPart.IsLabel i.code.toList) :
    (issueGroup width dir title colour issues).ending = issues.findSome? (placeFault? dir) := by
  have hall : (Output.all issues (issueLines width dir colour)).ending =
      issues.findSome? (placeFault? dir) :=
    Output.ending_all fun i hi => ending_issueLines hcolour (hcodes i hi)
  unfold issueGroup
  rw [Output.ending_when, Output.ending_append, Output.ending_append, hall, Output.ending_marked,
    fault?_groupHeading htitle, Output.ending_blankLine]
  cases issues with
  | nil => rfl
  | cons i issues => simp

/-- The summary of a package in front of a report does not end the command. -/
theorem ending_reportLines_some (p : Package) (r : Report) :
    (reportLines width dir (some p) r).ending = (reportLines width dir none r).ending := by
  unfold reportLines
  dsimp only
  rw [Output.ending_append, ending_inventorySummary, Option.none_or, Output.nothing_append]

/-- The lines of a report end the command with the first fault of a place, errors coming first. -/
theorem ending_reportLines (p? : Option Package) {r : Report}
    (hcodes : ∀ i ∈ r.issues, MarkupPart.IsLabel i.code.toList) :
    (reportLines width dir p? r).ending = (r.errors ++ r.warnings).findSome? (placeFault? dir) := by
  have hnone : (reportLines width dir p? r).ending = (reportLines width dir none r).ending := by
    cases p? with
    | none => rfl
    | some p => exact ending_reportLines_some p r
  have hpassed : fault? "[green][bold]ALL CHECKS PASSED[/bold][/green]" = none :=
    fault?_verdict "ALL CHECKS PASSED" "" (isStyleName "green" (by simp)) (by decide) (by decide)
      (by simp)
  rw [hnone]
  unfold reportLines
  rw [Output.nothing_append]
  split
  · rename_i hempty
    rw [Output.ending_marked, hpassed, Report.errors, Report.warnings,
      List.isEmpty_iff.mp hempty]
    rfl
  · have herrors : ∀ i ∈ r.errors, MarkupPart.IsLabel i.code.toList :=
      fun i hi => hcodes i (List.mem_of_mem_filter hi)
    have hwarnings : ∀ i ∈ r.warnings, MarkupPart.IsLabel i.code.toList :=
      fun i hi => hcodes i (List.mem_of_mem_filter hi)
    rw [Output.ending_append, Output.ending_append, ending_verdict, Option.or_none,
      ending_issueGroup (isStyleName _ (by simp)) (by decide) herrors,
      ending_issueGroup (isStyleName _ (by simp)) (by decide) hwarnings, List.findSome?_append]

end Lines

section Codes

variable {t : FileTree} {p : Package} {settings : AuditSettings} {cwd path : Path}

/-- The issues of an audit have codes of rules, or report failures. -/
theorem code_of_mem_indexAndRun {i : Issue}
    (hi : i ∈ (Audit.indexAndRun t cwd settings path).2.issues) :
    i.code ∈ Audit.failureCode :: Audit.ruleCodes.flatMap Prod.snd := by
  unfold Audit.indexAndRun at hi
  split at hi
  · rename_i p hp
    change i ∈ (Audit.run t settings Audit.battery p).issues at hi
    rw [Audit.run_eq] at hi
    obtain ⟨rule, hrule, hi⟩ :=
      List.mem_flatMap.mp ((Issue.isStableSort_sort _).perm.mem_iff.mp hi)
    rw [← Audit.map_fst_ruleCodes] at hrule
    obtain ⟨⟨rule, codes⟩, hcodes, rfl⟩ := List.mem_map.mp hrule
    rcases Audit.code_of_mem_issuesOf hcodes hi with hcode | ⟨hcode, -⟩
    · exact List.mem_cons_of_mem _ (List.mem_flatMap.mpr ⟨_, hcodes, hcode⟩)
    · rw [hcode]
      exact List.mem_cons_self
  · obtain rfl := List.mem_singleton.mp hi
    exact List.mem_cons_self

/-- The code of an issue of an audit is no tag. -/
theorem isLabel_code {i : Issue} (hi : i ∈ (Audit.indexAndRun t cwd settings path).2.issues) :
    MarkupPart.IsLabel i.code.toList := by
  have hcodes : ∀ code ∈ Audit.failureCode :: Audit.ruleCodes.flatMap Prod.snd,
      MarkupPart.IsLabel code.toList := by
    simp only [Audit.failureCode, Audit.ruleCodes, Rule.rootManifestCodes, Rule.rootAgentCodes,
      Rule.globalInstructionCodes, Rule.guardrailCodes, Rule.unsupportedDirectoryCodes,
      Rule.nestingDepthCodes, Rule.agentCodes, Rule.toolsetCodes, Rule.evaluationCodes,
      Rule.instructionCodes, Rule.environmentCodes, List.flatMap_cons, List.flatMap_nil,
      List.cons_append, List.nil_append, List.forall_mem_cons, List.not_mem_nil, false_implies,
      implies_true, and_true]
    -- the characters of a code are taken from how it is written, not from its bytes
    and_intros <;>
    · rw [String.toList_ofList]
      decide
  exact hcodes _ (code_of_mem_indexAndRun hi)

end Codes

section Command

variable {w : Place} {path? config? : Option String} {strict : Bool} {dir : Path}
  {c : Configuration}

/-- Where a directory and a configuration are found, the command audits the directory. -/
theorem validate_eq (hdir : w.packageDir path? = .ok dir)
    (hnameable : (config?.map Path.ofString).all FileTree.isNameable = true)
    (hconfig : Configuration.loadFrom w.tree w.cwd (config?.map Path.ofString) dir = .ok c)
    (format : OutputFormat) :
    w.validate path? (some format.name) config? strict =
      w.audit dir (if strict then { c.audit with failOnWarnings := true } else c.audit) format := by
  have hformat : Place.formatOf? (some format.name) = .ok (some format) := by
    cases format <;> decide
  have hnone : ((config?.map Path.ofString).any fun p => !FileTree.isNameable p) = false := by
    cases config? with
    | none => rfl
    | some config => simpa using hnameable
  unfold Place.validate
  rw [hformat, hdir]
  change w.withConfiguration config? dir _ = _
  unfold Place.withConfiguration
  rw [hnone, hconfig]
  rfl

/-- The command that audits a directory ends as the report does, or else with its exit code. -/
theorem ending_audit (hdirectory : w.tree.isDirectory dir = .ok true) (settings : AuditSettings)
    (format : OutputFormat) :
    (w.audit dir settings format).ending =
      (reportOutput w.width format dir (Audit.indexAndRun w.tree w.cwd settings dir).1
        (Audit.indexAndRun w.tree w.cwd settings dir).2).ending.or
          (some (.exit (Audit.indexAndRun w.tree w.cwd settings dir).2.exitCode)) := by
  have hheading : (Output.when (format == .table) (w.heading dir)).ending = none := by
    rw [Output.ending_when, ending_heading, ite_self]
  unfold Place.audit Place.requireDirectory
  rw [Output.ending_append, hheading, hdirectory, Option.none_or]
  exact Output.ending_append

end Command

/-- The command that audits a directory ends with the exit code of the report, except that the lines
for people end with a fault of markup if there is one in the place of an issue. Beside JSON this is
said of packages whose documents have no escape for half of a surrogate pair: such a half is no
character, and cannot be printed in a message. -/
theorem ending_validate (w : Place) (path? config? : Option String) (strict : Bool) {dir : Path}
    {c : Configuration} (hdir : w.packageDir path? = .ok dir)
    (hdirectory : w.tree.isDirectory dir = .ok true)
    (hnameable : (config?.map Path.ofString).all FileTree.isNameable = true)
    (hconfig : Configuration.loadFrom w.tree w.cwd (config?.map Path.ofString) dir = .ok c) :
    let settings := if strict then { c.audit with failOnWarnings := true } else c.audit
    let report := (Audit.indexAndRun w.tree w.cwd settings dir).2
    let ending := fun format : OutputFormat =>
      (w.validate path? (some format.name) config? strict).ending
    ending .json = some (.exit report.exitCode) ∧
      (w.tree.WritesNoHalf →
        ending .markdown = some (.exit report.exitCode) ∧
        ((∀ i ∈ report.issues, fault? (placeOf dir i) = none) →
          ending .table = some (.exit report.exitCode)) ∧
        ∀ i ∈ report.issues, ∀ f, fault? (placeOf dir i) = some f →
          ∃ f', ending .table = some (.badMarkup f')) ∧
      ∀ i ∈ report.issues, '[' ∉ (placeOf dir i).toList → fault? (placeOf dir i) = none := by
  intro settings report ending
  have hending : ∀ format, ending format =
      ((reportOutput w.width format dir (Audit.indexAndRun w.tree w.cwd settings dir).1
        report).ending.or (some (.exit report.exitCode))) := by
    intro format
    change (w.validate path? (some format.name) config? strict).ending = _
    rw [validate_eq hdir hnameable hconfig, ending_audit hdirectory]
  have hcodes : ∀ i ∈ report.issues, MarkupPart.IsLabel i.code.toList := fun i hi =>
    isLabel_code hi
  -- the lines for people have every issue, the errors in front of the warnings
  have hprinted : ∀ i, i ∈ report.errors ++ report.warnings ↔ i ∈ report.issues := by
    intro i
    rw [Report.errors, Report.warnings, List.mem_append, List.mem_filter, List.mem_filter,
      ← and_or_left]
    exact and_iff_left (by cases i.severity <;> decide)
  have htable : ending .table = (((report.errors ++ report.warnings).findSome?
      (placeFault? dir)).or (some (.exit report.exitCode))) := by
    rw [hending]
    exact congrArg (Option.or · _) (ending_reportLines _ hcodes)
  refine ⟨hending .json, fun _ => ⟨hending .markdown, fun hplaces => ?_, fun i hi f hf => ?_⟩,
    fun i _ hbracket => fault?_of_notMem hbracket⟩
  · have hnone : (report.errors ++ report.warnings).findSome? (placeFault? dir) = none := by
      rw [List.findSome?_eq_none_iff]
      intro i hi
      rw [placeFault?, hplaces i ((hprinted i).mp hi)]
      rfl
    rw [htable, hnone]
    rfl
  · -- an issue in front of `i` may have another fault, which is then the one that is met
    cases hfound : (report.errors ++ report.warnings).findSome? (placeFault? dir) with
    | none =>
      have hnone := List.findSome?_eq_none_iff.mp hfound i ((hprinted i).mpr hi)
      rw [placeFault?, hf] at hnone
      cases hnone
    | some found =>
      obtain ⟨j, -, hj⟩ := List.exists_of_findSome?_eq_some hfound
      obtain ⟨f', -, rfl⟩ := Option.map_eq_some_iff.mp hj
      rw [htable, hfound]
      exact ⟨f', rfl⟩

section Bracket

/-- A package without errors in which a folder is named like the start of a tag. -/
def bracketed : Place where
  tree := ⟨[(["p"], .directory), (["p", "app.json"], .file "\x7b\"rootAgent\": \"a\"\x7d".toUTF8),
    (["p", "agents"], .directory), (["p", "agents", "a"], .directory),
    (["p", "agents", "a", "a.json"],
      .file "\x7b\"instruction\": \"agents/a/instruction.txt\"\x7d".toUTF8),
    (["p", "agents", "a", "instruction.txt"], .file "<role></role>".toUTF8),
    (["p", "examples"], .directory), (["p", "examples", "["], .directory),
    (["p", "examples", "[", "b]"], .directory),
    (["p", "examples", "[", "b]", "a.txt"], .file ⟨#[]⟩)]⟩
  cwd := ⟨.root, []⟩
  width := 2000

/-- The lines for people end with a fault of markup, and the object with the exit code. -/
theorem ending_validate_bracketed :
    bracketed.packageDir (some "p") = .ok ⟨.root, ["p"]⟩ ∧
      bracketed.tree.isDirectory ⟨.root, ["p"]⟩ = .ok true ∧
      bracketed.tree.WritesNoHalf ∧
      ((none : Option String).map Path.ofString).all FileTree.isNameable = true ∧
      Configuration.loadFrom bracketed.tree bracketed.cwd none ⟨.root, ["p"]⟩ = .ok {} ∧
      (bracketed.validate (some "p") (some "json") none false).ending = some (.exit 0) ∧
      ∃ f, (bracketed.validate (some "p") (some "table") none false).ending =
        some (.badMarkup f) := by
  have hdir : bracketed.packageDir (some "p") = .ok ⟨.root, ["p"]⟩ := by decide +kernel
  have hdirectory : bracketed.tree.isDirectory ⟨.root, ["p"]⟩ = .ok true := by decide +kernel
  have hconfig : Configuration.loadFrom bracketed.tree bracketed.cwd none ⟨.root, ["p"]⟩ =
      .ok {} := by decide +kernel
  have hwhole : bracketed.tree.WritesNoHalf := FileTree.writesNoHalf_of_entries (by decide +kernel)
  obtain ⟨hjson, hprinted, -⟩ :=
    ending_validate bracketed (some "p") none false hdir hdirectory rfl hconfig
  obtain ⟨-, -, htable⟩ := hprinted hwhole
  obtain ⟨hexit, i, hi, hsome⟩ :
      (Audit.indexAndRun bracketed.tree bracketed.cwd {} ⟨.root, ["p"]⟩).2.exitCode = 0 ∧
        ∃ i ∈ (Audit.indexAndRun bracketed.tree bracketed.cwd {} ⟨.root, ["p"]⟩).2.issues,
          (fault? (placeOf ⟨.root, ["p"]⟩ i)).isSome = true := by
    decide +kernel
  obtain ⟨f, hf⟩ := Option.isSome_iff_exists.mp hsome
  refine ⟨hdir, hdirectory, hwhole, rfl, hconfig, ?_, htable i hi f hf⟩
  rw [← hexit]
  exact hjson

end Bracket

end AgentPackage.CommandLine
