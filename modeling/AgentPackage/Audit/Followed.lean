import AgentPackage.Audit.Rules.GuardrailReferences
import AgentPackage.Audit.Rules.Toolsets

/-!
# Paths that the rules follow

The paths in the manifests of a package that the rules follow. Most lie inside the package, where
its listing is asked. Those that lead out of it are looked for in the file tree, which therefore
has to hold what stands there.
-/

namespace AgentPackage.Audit

/-- The path of the global instruction and the places of the guardrails and of the root agent. -/
def followedByManifest (p : Package) (manifest : AppManifest) : List Path :=
  let rootAgent := (p.root.entry "agents").child (manifest.rootAgent.getD "")
  Declared.resolve p.root (manifest.globalInstruction.getD "") ::
    rootAgent :: rootAgent.child (manifest.rootAgent.getD "" ++ ".json") ::
    (manifest.guardrails.getD []).flatMap (Guardrail.candidates p.root)

/-- The path of the instruction of an agent. -/
def followedByAgent (p : Package) (manifest : AgentManifest) : List Path :=
  [Declared.resolve p.root (manifest.instruction.getD "")]

/-- The path of the schema of a toolset. -/
def followedByToolset (p : Package) (toolset : Toolset) : List Path :=
  (Rule.declaredSchema? toolset).toList.map (Declared.resolve p.root)

/-- The paths in the manifests of a package that the rules follow. -/
def followed (p : Package) : List Path :=
  p.manifest.toList.flatMap (followedByManifest p) ++
    (p.agents.filterMap Entity.manifest).flatMap (followedByAgent p) ++
    p.toolsets.flatMap (followedByToolset p)

/-- The paths that the rules follow out of a package. -/
def followedOutside (p : Package) : List Path :=
  (followed p).filter fun path => !p.isInside path

end AgentPackage.Audit
