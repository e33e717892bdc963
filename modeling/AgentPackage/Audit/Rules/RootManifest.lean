import AgentPackage.Audit.Findings

/-!
# The manifest of the package

There has to be a manifest file at the root, it has to parse to an object, and its fields have to
fit. The YAML file counts where there are both.
-/

namespace AgentPackage.Rule

/-- Reports a manifest file that is not the usual one. -/
def manifestChoice (p : Package) (path : Path) : Findings :=
  if p.hasAppJson && p.hasAppYaml then
    Findings.warning "CES_MANIFEST_BOTH_PRESENT"
      "Both app.yaml and app.json are present. app.yaml takes precedence." path (some 1)
  else if p.hasAppJson then
    Findings.warning "CES_APP_JSON_ONLY"
      ("app.json is supported by this validator, but Agent Studio import " ++
        "compatibility is typically app.yaml-first.") path (some 1)
  else Findings.nothing

/-- Reports what is wrong with the content of a manifest file. -/
def manifestContent (t : FileTree) (p : Package) (path : Path) : Findings :=
  match p.document with
  | some (.wrongRoot _ _) =>
    Findings.error "CES_MANIFEST_INVALID_ROOT" "Manifest root must be an object" path (some 1)
  | document =>
    match document.bind Document.error? with
    | some reason =>
      Findings.error "CES_MANIFEST_PARSE_ERROR" ("Manifest parse error: " ++ reason) path (some 1)
    | none => Findings.fieldErrors t "CES_MANIFEST_FIELD_INVALID" "Manifest" path p.fieldIssues

/-- The rule about the manifest of the package. -/
def rootManifest : Rule where
  name := "manifest"
  findings t p _ :=
    match p.manifestPath? with
    | none =>
      Findings.error "CES_MANIFEST_MISSING" "Package must contain app.yaml or app.json at root"
        p.defaultManifestPath (some 1)
    | some path => manifestChoice p path ++ manifestContent t p path

end AgentPackage.Rule
