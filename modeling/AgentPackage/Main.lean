import AgentPackage.Audit.Followed
import AgentPackage.CommandLine.Run
import AgentPackage.Disk

/-!
# The program

Reads from the disk what a command asks about, runs the command and prints its output. Errors are
printed apart from it.
-/

namespace AgentPackage.CommandLine

/-- The paths that a command is given: the one that it is about, and that of a configuration. -/
def Command.paths : Command → List Path
  | .validate path _ config _ => [path, config].filterMap fun s => s.map Path.ofString
  | .inventory path | .roots path => path.toList.map Path.ofString

/-- How the directory that a command is about is read. -/
def Command.scope : Command → Disk.Scope
  | .roots _ =>
    { contents := false, throughLinks := false, excludedNames := Discovery.excludedNames }
  | _ => Disk.Scope.everything

/-- The directory that a command is about. -/
def Command.directory (w : Place) : Command → Except Failure Path
  | .validate path .. | .inventory path => w.packageDir path
  | .roots path => w.tree.resolve w.cwd (Path.ofString (path.getD "."))

/-- The names of files that are looked for in a directory and in those it lies in. -/
def soughtUpward : List String := [appYamlName, appJsonName, Configuration.fileName]

/-- The width of a terminal that does not tell its own. -/
def defaultWidth : Nat := 80

/-- Reads from the disk what a command asks about. -/
def readPlace (cwd : Path) (width : Nat) (command : Command) : IO Place := do
  let mut r ← Disk.readUpward soughtUpward cwd {}
  for path in command.paths do
    r ← Disk.readTo true linkLimit (FileTree.absolute cwd path) r
  match command.directory ⟨r.tree, cwd, width⟩ with
  | .error _ => return ⟨r.tree, cwd, width⟩
  | .ok dir =>
    r ← Disk.readUpward soughtUpward dir r
    r ← Disk.readAll command.scope dir r
    if let .ok p := Package.build r.tree cwd dir then
      for path in Audit.followedOutside p do
        r ← Disk.readTo true linkLimit path r
    return ⟨r.tree, cwd, width⟩

/-- Prints an output and gives the exit code. -/
def print (output : Output) : IO UInt32 := do
  IO.print output.text
  match output.ending with
  | some (.failed failure) => IO.eprintln failure.message
  | some (.badMarkup fault) => IO.eprintln fault.message
  | _ => pure ()
  return output.exitCode.toUInt32

/-- Runs the program with some arguments and gives the exit code. -/
def program (args : List String) : IO UInt32 := do
  match readRequest args with
  | .error e =>
    IO.eprintln e.message
    return usageExitCode.toUInt32
  | .ok request =>
    let cwd := Path.ofString (← IO.currentDir).toString
    let width := ((← IO.getEnv "COLUMNS").bind String.toNat?).getD defaultWidth
    let w ← match request with
      | .command command => readPlace cwd width command
      | _ => pure ⟨{}, cwd, width⟩
    print (w.answer request)

end AgentPackage.CommandLine

/-- The program: the exit code tells whether the package is in order. -/
def main (args : List String) : IO UInt32 :=
  AgentPackage.CommandLine.program args
