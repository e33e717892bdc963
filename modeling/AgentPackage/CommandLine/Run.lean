import AgentPackage.Audit.Run
import AgentPackage.CommandLine.Arguments
import AgentPackage.CommandLine.ReportText
import AgentPackage.Configuration.Loading
import AgentPackage.Package.Discovery

/-!
# Commands

What the commands do: audit a package, show what is in it, and list the packages in a directory.
A command reads a file tree and gives its output.
-/

namespace AgentPackage.CommandLine

/-- Where a command runs. -/
structure Place where
  /-- The file tree. -/
  tree : FileTree
  /-- The working directory, without links. -/
  cwd : Path
  /-- The width of the terminal. -/
  width : Nat

/-- The name of the program. -/
def programName : String := "cesval"

/-- The version of the program. -/
def versionNumber : String := "0.1.0"

/-- How the program is used. -/
def helpText : String :=
  "\n".intercalate
    ["Usage: " ++ programName ++ " [--version | -v] [--verbose] COMMAND",
     "",
     "Commands:",
     "  validate [PATH] [--format | -f table|json|markdown] [--config | -c FILE] [--strict]",
     "             Validate an agent package directory.",
     "  inventory [PATH]",
     "             Show the agents, toolsets and tools of an agent package.",
     "  roots [PATH]",
     "             List agent package roots found under a directory."]

namespace Place

/-- An error message, and an exit with code one. -/
def fail (w : Place) (message : String) : Output :=
  Output.marked w.width ("[red]Error:[/red] " ++ message) ++ Output.exit 1

/-- The directory of the package that a command is about: the given one, else that of the package
around the working directory, else the working directory. -/
def packageDir (w : Place) (path? : Option String) : Except Failure Path :=
  match path? with
  | some path => w.tree.resolve w.cwd (Path.ofString path)
  | none => do return (← Discovery.rootOf? w.tree w.cwd w.cwd).getD w.cwd

/-- Goes on if there is a directory at a path. -/
def requireDirectory (w : Place) (dir : Path) (next : Output) : Output :=
  Output.check (Package.access dir (w.tree.isDirectory dir)) fun isDirectory =>
    if isDirectory then next else w.fail ("Directory not found: " ++ dir.text)

/-- Goes on with the configuration for a package. A configuration file that is wrong is reported. -/
def withConfiguration (w : Place) (path? : Option String) (dir : Path)
    (next : Configuration → Output) : Output :=
  if (path?.map Path.ofString).any fun p => !FileTree.isNameable p then
    { ending := some (.failed .unnameablePath) }
  else
    match Configuration.loadFrom w.tree w.cwd (path?.map Path.ofString) dir with
    | .ok c => next c
    | .error (.malformedConfiguration path reason) =>
      w.fail (Failure.malformedConfiguration path reason).message
    | .error (.unloadableConfiguration path reason) =>
      w.fail (Failure.unloadableConfiguration path reason).message
    | .error f => { ending := some (.failed f) }

/-- The heading of a report for people. -/
def heading (w : Place) (dir : Path) : Output :=
  Output.marked w.width "[bold]=== CES Package Validator ===[/bold]" ++
    Output.unbroken ("  Package: " ++ dir.text) ++ Output.blankLine

/-- Audits a directory and prints the report in a layout. -/
def audit (w : Place) (dir : Path) (settings : AuditSettings) (format : OutputFormat) : Output :=
  Output.when (format == .table) (w.heading dir) ++
  w.requireDirectory dir (
    let (p?, report) := Audit.indexAndRun w.tree w.cwd settings dir
    reportOutput w.width format dir p? report ++ Output.exit report.exitCode)

/-- The layout of a given name; `none` if no name is given. -/
def formatOf? (name? : Option String) : Except String (Option OutputFormat) :=
  match name? with
  | none => .ok none
  | some name =>
    match OutputFormat.all.find? fun f => f.name == name with
    | some f => .ok (some f)
    | none => .error name

/-- The command that audits a package. -/
def validate (w : Place) (path? format? config? : Option String) (strict : Bool) : Output :=
  match formatOf? format? with
  | .error name =>
    w.fail ("Invalid format '" ++ name ++ "'. Must be one of: " ++
      ", ".intercalate (OutputFormat.all.map OutputFormat.name))
  | .ok format? =>
    Output.check (w.packageDir path?) fun dir =>
      w.withConfiguration config? dir fun c =>
        let settings :=
          if strict then { c.audit with failOnWarnings := true } else c.audit
        w.audit dir settings (format?.getD c.outputFormat)

/-- The row of an agent. -/
def agentRow (a : Entity AgentManifest) : List String :=
  let names (f : AgentManifest → List String) : String :=
    ", ".intercalate ((a.manifest.map f).getD [])
  [a.name, names fun m => m.tools.getD [], names AgentManifest.toolsetNames,
    names fun m => m.childAgents.getD []]

/-- The row of a toolset: its name, and the schema it declares or else the one in its folder. -/
def toolsetRow (p : Package) (s : Toolset) : List String :=
  let declared := (s.entity.manifest.bind ToolsetManifest.declaredSchemaPath).filter (· != "")
  let detected := s.detectedSchema.bind fun path =>
    (path.relativeTo? p.root).map fun names => (Path.mk .relative names).text
  [s.entity.name, (declared.orElse fun _ => detected).getD "-"]

/-- The table of the agents of a package. -/
def agentTable (p : Package) : Terminal.Table String :=
  ⟨"Agents", ["Name", "Tools", "Toolsets", "Child Agents"], p.agents.map agentRow⟩

/-- The table of the toolsets of a package. -/
def toolsetTable (p : Package) : Terminal.Table String :=
  ⟨"Toolsets", ["Name", "Schema"], p.toolsets.map (toolsetRow p)⟩

/-- The table of the tools of a package. -/
def toolTable (p : Package) : Terminal.Table String :=
  ⟨"Tool Inventory", ["Name", "Kind"],
    p.directTools.map (fun n => [n, "direct"]) ++
      p.inventory.operations.map fun n => [n, "openapi"]⟩

/-- The command that shows what is in a package. -/
def inventory (w : Place) (path? : Option String) : Output :=
  Output.check (w.packageDir path?) fun dir =>
    w.requireDirectory dir <|
      Output.check (Package.build w.tree w.cwd dir) fun p =>
        Output.table w.width (agentTable p) ++ Output.table w.width (toolsetTable p) ++
        Output.table w.width (toolTable p) ++
        Output.when (!p.scriptTools.isEmpty)
          (Output.marked w.width ("\n[blue]Script tools:[/blue] " ++
            ", ".intercalate (p.scriptTools.map Entity.name)))

/-- The command that lists the packages in a directory. -/
def roots (w : Place) (path? : Option String) : Output :=
  Output.check (w.tree.resolve w.cwd (Path.ofString (path?.getD "."))) fun dir =>
    w.requireDirectory dir <|
      Output.check (Discovery.rootsBelow w.tree w.cwd dir) fun
        | [] =>
          Output.marked w.width
            ("[yellow]No agent packages found under " ++ dir.text ++ "[/yellow]")
        | roots => Output.all roots fun root => Output.unbroken root.text

/-- What a request prints. -/
def answer (w : Place) : Request → Output
  | .version => Output.marked w.width (programName ++ " version " ++ versionNumber)
  | .help => Output.raw helpText
  | .command (.validate path? format? config? strict) => w.validate path? format? config? strict
  | .command (.inventory path?) => w.inventory path?
  | .command (.roots path?) => w.roots path?

end Place

/-- The exit code for arguments that cannot be understood. -/
def usageExitCode : Nat := 2

/-- What the program prints when it is given some arguments. -/
def run (w : Place) (args : List String) : Except UsageError Output :=
  (readRequest args).map w.answer

end AgentPackage.CommandLine
