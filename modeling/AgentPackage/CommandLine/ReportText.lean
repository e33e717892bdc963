import AgentPackage.Audit.Report
import AgentPackage.CommandLine.Output
import AgentPackage.Configuration.Basic
import AgentPackage.Json.Writer
import AgentPackage.Package.Model

/-!
# Reports for people and programs

The three layouts of a report: lines under headings, a JSON object, and a Markdown document. In
the first and the last an issue is placed by its path inside the package where it has one.
-/

namespace AgentPackage.CommandLine

/-- Where an issue is, seen from the directory of the package. -/
def placeOf (dir : Path) (i : Issue) : String :=
  let file := match (Path.ofString i.file).relativeTo? dir with
    | some names => (Path.mk .relative names).text
    | none => i.file
  match i.line with
  | some n => file ++ ":" ++ toString n
  | none => file

/-! ## JSON -/

/-- The JSON object of an issue. -/
def issueTree (i : Issue) : Json.Tree :=
  .object [("code", .text i.code), ("message", .text i.message),
    ("severity", .text i.severity.name), ("file", .text i.file),
    ("line", Json.Tree.option Json.Tree.int i.line)]

/-- The JSON object of a report. -/
def reportTree (r : Report) : Json.Tree :=
  .object [("status", .text r.status.name), ("exit_code", Json.Tree.nat r.exitCode),
    ("counters", .object (r.counters.map fun (name, n) => (name, Json.Tree.int n))),
    ("issues", .array (r.issues.map issueTree))]

/-! ## Markdown -/

/-- The line of an issue. -/
def markdownIssue (dir : Path) (i : Issue) : String :=
  "- **" ++ i.severity.title ++ "** `" ++ i.code ++ "` " ++ placeOf dir i ++ ": " ++ i.message

/-- The lines of a report. -/
def markdownLines (dir : Path) (r : Report) : List String :=
  let counters := Sorting.sort (fun a b => decide (a.1 ≤ b.1)) r.counters
  ["# Validation Report", "**Status:** " ++ r.status.name,
    "**Exit Code:** " ++ toString r.exitCode, ""] ++
  (if counters.isEmpty then []
    else "## Counters" :: counters.map (fun (name, n) => "- " ++ name ++ ": " ++ toString n) ++
      [""]) ++
  if r.issues.isEmpty then [] else "## Issues" :: r.issues.map (markdownIssue dir)

/-! ## Lines under headings -/

/-- The tools of a package, and how many evaluations it has. -/
def inventorySummary (width : Nat) (p : Package) : Output :=
  Output.when (!p.directTools.isEmpty || !p.inventory.operations.isEmpty)
    (Output.marked width "[bold]Tool Inventory[/bold]" ++
      Output.broken width
        ("  Direct tools:       [" ++ ", ".intercalate p.directTools ++ "]") ++
      Output.broken width
        ("  OpenAPI operations: [" ++ ", ".intercalate p.inventory.operations ++ "]") ++
      Output.blankLine) ++
  Output.when (!p.evaluations.isEmpty)
    (Output.marked width "[bold]Evaluations[/bold]" ++
      Output.marked width ("  " ++ toString p.evaluations.length ++ " evaluation(s) found") ++
      Output.blankLine)

/-- Two lines about an issue. -/
def issueLines (width : Nat) (dir : Path) (colour : String) (i : Issue) : Output :=
  let word := match i.severity with
    | .error => "ERROR"
    | .warning => "WARN"
  Output.marked width
    ("  [" ++ colour ++ "]" ++ word ++ "[/" ++ colour ++ "]  [dim]\\[" ++ i.code ++ "][/dim] " ++
      placeOf dir i) ++
  Output.broken width ("         " ++ i.message)

/-- Issues under a heading. -/
def issueGroup (width : Nat) (dir : Path) (title colour : String) (issues : List Issue) :
    Output :=
  Output.when (!issues.isEmpty) <|
    Output.marked width
      ("[bold]" ++ title ++ " (" ++ toString issues.length ++ ")[/bold]") ++
    Output.all issues (issueLines width dir colour) ++
    Output.blankLine

/-- How many errors and warnings there are, and whether the package passes. -/
def verdict (width : Nat) (r : Report) : Output :=
  let warnings := toString r.warnings.length
  if !r.errors.isEmpty then
    Output.marked width ("[red][bold]FAILED:[/bold][/red] " ++ toString r.errors.length ++
      " error(s), " ++ warnings ++ " warning(s)")
  else if r.exitCode != 0 then
    Output.marked width
      ("[red][bold]FAILED:[/bold][/red] " ++ warnings ++ " warning(s) in strict mode")
  else
    Output.marked width
      ("[green][bold]PASSED[/bold][/green] with " ++ warnings ++ " warning(s)")

/-- The lines of a report, and a summary of the package if there is a model of it. -/
def reportLines (width : Nat) (dir : Path) (p? : Option Package) (r : Report) : Output :=
  (match p? with
    | some p => inventorySummary width p
    | none => Output.nothing) ++
  if r.issues.isEmpty then Output.marked width "[green][bold]ALL CHECKS PASSED[/bold][/green]"
  else
    issueGroup width dir "Errors" "red" r.errors ++
    issueGroup width dir "Warnings" "yellow" r.warnings ++
    verdict width r

/-- A report in one of the layouts. -/
def reportOutput (width : Nat) (format : OutputFormat) (dir : Path) (p? : Option Package)
    (r : Report) : Output :=
  match format with
  | .json => Output.raw ((reportTree r).indented 0)
  | .markdown => Output.raw ("\n".intercalate (markdownLines dir r))
  | .table => reportLines width dir p? r

end AgentPackage.CommandLine
