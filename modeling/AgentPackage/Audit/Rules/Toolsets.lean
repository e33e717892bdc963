import AgentPackage.Audit.Findings
import AgentPackage.Package.Declared

/-!
# Toolsets

The manifest of a toolset has to load and its fields have to fit. The schema of a toolset, the
one that it declares or else the one in its folder for schemas, has to be an OpenAPI document
that says which version it has.
-/

namespace AgentPackage.Rule

/-- The findings about a schema file that was read. -/
def schemaDocument (t : FileTree) (path : Path) (document : Document) : Findings :=
  match document with
  | .wrongRoot _ _ =>
    Findings.error "CES_OPENAPI_INVALID_ROOT" "OpenAPI schema root must be an object" path (some 1)
  | .record fields _ =>
    if Document.hasVersionMarker fields then Findings.counted "openapi_schemas_valid"
    else
      Findings.check (Document.lineOfVersionMarker t path) fun line =>
        Findings.error "CES_OPENAPI_VERSION_MISSING"
          "OpenAPI schema must define either 'openapi' or 'swagger' at top level" path line
  | document =>
    Findings.error "CES_OPENAPI_PARSE_ERROR"
      ("OpenAPI schema parse error: " ++ document.error?.getD "") path (some 1)

/-- The findings about a schema file. -/
def schemaFile (t : FileTree) (path : Path) : Findings :=
  Findings.check (Document.readByExtension t path) (schemaDocument t path)

/-- The findings about a toolset of which no schema file is known. -/
def noSchemaFile (t : FileTree) (p : Package) (toolset : Toolset) : Findings :=
  Findings.check (p.hasDirectory t toolset.schemaDir) fun hasDirectory =>
    Findings.when hasDirectory <|
      Findings.errorAt t "CES_OPENAPI_SCHEMA_NOT_FOUND"
        ("Toolset '" ++ toolset.entity.name ++
          "' has open_api_toolset directory but no schema file")
        toolset.entity.manifestPath "openApiToolset"

/-- The schema path that a toolset declares, if it is not empty. -/
def declaredSchema? (toolset : Toolset) : Option String :=
  (toolset.entity.manifest.bind ToolsetManifest.declaredSchemaPath).filter (· != "")

/-- The findings about the schema of a toolset. -/
def toolsetSchema (t : FileTree) (p : Package) (toolset : Toolset) : Findings :=
  match declaredSchema? toolset with
  | none =>
    match toolset.detectedSchema with
    | some path => schemaFile t path
    | none => noSchemaFile t p toolset
  | some declared =>
    let path := Declared.resolve p.root (Declared.withSlashes declared)
    Findings.check (p.pathExists t path) fun pathExists =>
      if pathExists then schemaFile t path
      else
        Findings.errorAt t "CES_OPENAPI_SCHEMA_MISSING"
          ("Declared OpenAPI schema does not exist: " ++ Declared.withSlashes declared)
          toolset.entity.manifestPath "openApiSchema" ++
        noSchemaFile t p toolset

/-- The findings about one toolset. -/
def toolsetFindings (t : FileTree) (p : Package) (toolset : Toolset) : Findings :=
  match toolset.entity.error with
  | some reason =>
    Findings.error "CES_TOOLSET_MANIFEST_INVALID"
      ("Toolset '" ++ toolset.entity.name ++ "' manifest error: " ++ reason)
      toolset.entity.manifestPath (some 1)
  | none =>
    Findings.fieldErrors t "CES_TOOLSET_FIELD_INVALID" ("Toolset '" ++ toolset.entity.name ++ "'")
      toolset.entity.manifestPath toolset.entity.fieldIssues ++
    toolsetSchema t p toolset

/-- The rule about toolsets. -/
def toolsets : Rule where
  name := "toolsets"
  findings t p _ := Findings.all p.toolsets (toolsetFindings t p)

end AgentPackage.Rule
