import AgentPackage.Audit.Findings

/-!
# Evaluations

The manifest of an evaluation has to load and its fields have to fit. The calls that it expects
have to be those of direct tools, not of operations of a toolset.
-/

namespace AgentPackage.Rule

/-- The findings about a call that an evaluation expects in a turn, counted from zero. -/
def expectedCall (t : FileTree) (p : Package) (evaluation : Entity EvaluationManifest)
    (turn : Nat) (tool : String) : Findings :=
  let path := evaluation.manifestPath
  let subject := "Evaluation '" ++ evaluation.name ++ "' turn " ++ toString (turn + 1) ++
    ": toolCall '" ++ tool ++ "'"
  Findings.check (Document.lineContaining t path tool) fun line =>
    if p.inventory.isOperation tool then
      Findings.error "CES_EVALUATION_TOOLCALL_OPENAPI_OPERATION"
        (subject ++ " is an OpenAPI operation, not a direct tool. " ++
          "Evaluations must expect direct tools only.") path line
    else
      Findings.when (!p.directTools.isEmpty && !p.directTools.contains tool) <|
        Findings.error "CES_EVALUATION_TOOLCALL_UNKNOWN"
          (subject ++ " not found in any agent's tools list. Known tools: [" ++
            ", ".intercalate p.directTools ++ "]") path line

/-- The findings about an evaluation whose name differs from that of its folder. -/
def evaluationName (t : FileTree) (evaluation : Entity EvaluationManifest)
    (manifest : EvaluationManifest) : Findings :=
  match manifest.displayName with
  | none => Findings.nothing
  | some name =>
    Findings.when (name != evaluation.name) <|
      Findings.warningAt t "CES_EVALUATION_DISPLAYNAME_MISMATCH"
        ("Evaluation displayName '" ++ name ++ "' differs from folder name '" ++
          evaluation.name ++ "'") evaluation.manifestPath "displayName"

/-- The findings about one evaluation. -/
def evaluationFindings (t : FileTree) (p : Package) (evaluation : Entity EvaluationManifest) :
    Findings :=
  match evaluation.error, evaluation.manifest with
  | some reason, _ =>
    Findings.error "CES_EVALUATION_MANIFEST_INVALID"
      ("Evaluation '" ++ evaluation.name ++ "' manifest error: " ++ reason)
      evaluation.manifestPath (some 1)
  | none, none => Findings.nothing
  | none, some manifest =>
    Findings.fieldErrors t "CES_EVALUATION_FIELD_INVALID"
      ("Evaluation '" ++ evaluation.name ++ "'") evaluation.manifestPath evaluation.fieldIssues ++
    evaluationName t evaluation manifest ++
    Findings.all manifest.expectedToolCalls fun (turn, tool) =>
      expectedCall t p evaluation turn tool

/-- The rule about evaluations. -/
def evaluations : Rule where
  name := "evaluations"
  findings t p _ := Findings.all p.evaluations (evaluationFindings t p)

end AgentPackage.Rule
