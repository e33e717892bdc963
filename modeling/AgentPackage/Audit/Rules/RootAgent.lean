import AgentPackage.Audit.Findings

/-!
# The root agent

The manifest of the package has to name a root agent, which has to have a folder and a manifest.
-/

namespace AgentPackage.Rule

/-- The findings about a root agent of the given name; `path` is the manifest of the package and
`line` the line that names the agent. -/
def namedRootAgent (t : FileTree) (p : Package) (path : Path) (line : Option Nat)
    (name : String) : Findings :=
  let dir := (p.root.entry "agents").child name
  Findings.check (p.hasDirectory t dir) fun hasDirectory =>
    if !hasDirectory then
      Findings.error "CES_ROOT_AGENT_DIR_MISSING"
        ("rootAgent '" ++ name ++ "' must exist at agents/" ++ name) path line
    else
      let manifest := dir.child (name ++ ".json")
      Findings.check (p.hasFile t manifest) fun hasFile =>
        Findings.when (!hasFile) <|
          Findings.error "CES_ROOT_AGENT_MANIFEST_MISSING"
            ("rootAgent manifest missing at agents/" ++ name ++ "/" ++ name ++ ".json")
            manifest (some 1)

/-- The rule about the root agent. -/
def rootAgent : Rule where
  name := "root_agent"
  findings t p _ :=
    match p.manifest, p.manifestPath? with
    | some manifest, some path =>
      Findings.check (Document.lineContaining t path "rootAgent") fun line =>
        let name := manifest.rootAgent.getD ""
        if Text.isAllBlank name then
          Findings.when (!p.fieldIssues.any fun i => i.field == "rootAgent") <|
            Findings.error "CES_ROOT_AGENT_MISSING" "Manifest must define a non-empty rootAgent"
              path line
        else namedRootAgent t p path line name
    | _, _ => Findings.nothing

end AgentPackage.Rule
