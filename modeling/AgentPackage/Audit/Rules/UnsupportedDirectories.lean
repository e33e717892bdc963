import AgentPackage.Audit.Findings

/-!
# Unsupported directories

Directories at the root of a package that the settings refuse.
-/

namespace AgentPackage.Rule

/-- The rule about refused directories. -/
def unsupportedDirectories : Rule where
  name := "unsupported_directories"
  findings t p settings :=
    let path := p.defaultManifestPath
    Findings.all settings.unsupportedDirectories fun name =>
      Findings.when (p.topLevelDirs.contains name) <|
        Findings.check (Document.lineContaining t path name) fun line =>
          Findings.error "CES_UNSUPPORTED_IMPORT_DIRECTORY"
            ("Directory '" ++ name ++ "/' is not supported in CES import packages")
            path (some (line.getD 1))

end AgentPackage.Rule
