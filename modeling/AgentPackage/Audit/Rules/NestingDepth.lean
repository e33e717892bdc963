import AgentPackage.Audit.Findings
import AgentPackage.Package.Declared

/-!
# Depth of files

Files in the known folders of a package may lie only so deep. The depth of a file is the number
of names behind that of the folder.
-/

namespace AgentPackage.Rule

/-- The code of the findings in a folder of a package, and how deep files may lie there. -/
def depthRule? (settings : AuditSettings) (folder : String) : Option (String × Int) :=
  if folder == "agents" || folder == "tools" || folder == "examples" then
    some ("CES_NESTING_DEPTH_EXCEEDED", settings.rootDepthLimit)
  else if folder == "toolsets" then
    some ("CES_TOOLSET_NESTING_DEPTH_EXCEEDED", settings.toolsetDepthLimit)
  else if folder == "guardrails" then
    some ("CES_GUARDRAIL_NESTING_DEPTH_EXCEEDED", settings.guardrailDepthLimit)
  else none

/-- The findings about the depth of one file. -/
def fileDepth (settings : AuditSettings) (p : Package) (file : Path) : Findings :=
  let relative := Declared.relative p.root file
  match Declared.topLevel? relative with
  | none => Findings.nothing
  | some folder =>
    match depthRule? settings folder with
    | none => Findings.nothing
    | some (code, limit) =>
      let depth := Declared.depth relative
      Findings.when (limit < depth) <|
        Findings.warning code
          (folder ++ "/ contains file nested " ++ toString depth ++ " levels deep; expected max " ++
            toString limit) file (some 1)

/-- The rule about the depth of files. -/
def nestingDepth : Rule where
  name := "nesting_depth"
  findings _ p settings := Findings.all p.files (fileDepth settings p)

end AgentPackage.Rule
