import AgentPackage.Audit.Findings
import AgentPackage.Package.Declared

/-!
# The global instruction

Where the manifest of the package names a file with the global instruction, the file has to exist.
-/

namespace AgentPackage.Rule

/-- The rule about the global instruction. -/
def globalInstruction : Rule where
  name := "global_instruction"
  findings t p _ :=
    match p.manifest, p.manifestPath? with
    | some manifest, some path =>
      let value := manifest.globalInstruction.getD ""
      if Text.isAllBlank value || Declared.isLikelyInline value then Findings.nothing
      else
        let declared := Declared.withSlashes (Text.trim value)
        Findings.check (p.pathExists t (Declared.resolve p.root declared)) fun pathExists =>
          Findings.when (!pathExists) <|
            Findings.errorAt t "CES_GLOBAL_INSTRUCTION_MISSING"
              ("globalInstruction path does not exist: " ++ declared) path "globalInstruction"
    | _, _ => Findings.nothing

end AgentPackage.Rule
