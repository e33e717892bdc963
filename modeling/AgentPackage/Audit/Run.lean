import AgentPackage.Audit.Rules.RootManifest
import AgentPackage.Audit.Rules.RootAgent
import AgentPackage.Audit.Rules.GlobalInstruction
import AgentPackage.Audit.Rules.GuardrailReferences
import AgentPackage.Audit.Rules.UnsupportedDirectories
import AgentPackage.Audit.Rules.NestingDepth
import AgentPackage.Audit.Rules.Agents
import AgentPackage.Audit.Rules.Toolsets
import AgentPackage.Audit.Rules.Evaluations
import AgentPackage.Audit.Rules.Instructions
import AgentPackage.Audit.Rules.EnvironmentFile
import AgentPackage.Package.Index

/-!
# Audits

An audit runs rules over the model of a package, one after another, and gathers what they report.
A rule that fails keeps what it reported before and adds one error that says so; the rules after
it run all the same. A package of which no model can be built gives a report with one error.
-/

namespace AgentPackage.Audit

/-- The rules of a full audit, in order. -/
def battery : List Rule :=
  [Rule.rootManifest, Rule.rootAgent, Rule.globalInstruction, Rule.guardrailReferences,
    Rule.unsupportedDirectories, Rule.nestingDepth, Rule.agents, Rule.toolsets, Rule.evaluations,
    Rule.instructions, Rule.environmentFile]

/-- The rule of a full audit with a given name. -/
def rule? (name : String) : Option Rule :=
  battery.find? fun r => r.name == name

/-- The code of an issue that reports a failure. -/
def failureCode : String := "CES_VALIDATOR_RUNTIME_ERROR"

/-- The issue that reports the failure of a rule. -/
def ruleFailure (p : Package) (name : String) (f : Failure) : Issue :=
  ⟨failureCode, "Rule '" ++ name ++ "' execution failed: " ++ f.message, .error,
    p.defaultManifestPath.text, some 1⟩

/-- The issues of a rule, the one about its failure last. -/
def issuesOf (p : Package) (name : String) (f : Findings) : List Issue :=
  f.issues ++ (f.failure.map (ruleFailure p name)).toList

/-- Takes what a rule reports into a report. -/
def take (p : Package) (name : String) (r : Report) (f : Findings) : Report :=
  let r := f.counts.foldl (fun r c => r.count c.1 c.2) r
  (issuesOf p name f).foldl Report.add r

/-- What is counted in every package. -/
def inventoryCounts (p : Package) : List (String × Int) :=
  [("agents", p.agents.length), ("toolsets", p.toolsets.length),
    ("evaluations", p.evaluations.length), ("instructions", p.instructions.length),
    ("direct_tools", p.directTools.length),
    ("openapi_operations", p.inventory.operations.length)]

/-- A report with the counts of a package and no issue. -/
def start (settings : AuditSettings) (p : Package) : Report :=
  (inventoryCounts p).foldl (fun r c => r.count c.1 c.2)
    { failOnWarnings := settings.failOnWarnings }

/-- Runs rules over a package, the file tree being that of the moment. -/
def run (t : FileTree) (settings : AuditSettings) (rules : List Rule) (p : Package) : Report :=
  (rules.foldl (fun r rule => take p rule.name r (rule.findings t p settings))
    (start settings p)).sort

/-- Runs a full audit over a package. -/
def runAll (t : FileTree) (settings : AuditSettings) (p : Package) : Report :=
  run t settings battery p

/-- The report about a directory of which no model can be built. -/
def notIndexed (settings : AuditSettings) (path : Path) (f : Failure) : Report :=
  { failOnWarnings := settings.failOnWarnings : Report }.add
    ⟨failureCode, f.message, .error, (path.entry appYamlName).text, some 1⟩

/-- Builds the model of the package at a path and runs a full audit over it. -/
def indexAndRun (t : FileTree) (cwd : Path) (settings : AuditSettings) (path : Path) :
    Option Package × Report :=
  match Package.build t cwd path with
  | .ok p => (some p, runAll t settings p)
  | .error f => (none, notIndexed settings path f)

/-- The rules of a full audit have names of their own. -/
theorem nodup_battery_name : (battery.map Rule.name).Nodup := by
  decide

end AgentPackage.Audit
